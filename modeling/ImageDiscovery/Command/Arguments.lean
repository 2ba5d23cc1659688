import ImageDiscovery.Text.Split

/-!
# Arguments of commands

A command takes parameters by their names or by single letters. A parameter takes a value, after an
equals sign or as the next argument, or is a switch that stands alone. Letters may be joined behind
one dash, and the first of them that takes a value takes the rest. No parameter may be given twice.
Where a parameter is not given, a variable of the environment may give it.

## Main definitions

* `Command.Parameter` — what can be said to a command.
* `Command.Halt` — why a command is not run.
* `Command.Settings.ofArguments` — what is said to a command.
-/

namespace ImageDiscovery.Command

open Text

/-- What can be said to a command. -/
structure Parameter where
  name : String
  letter : Option Char
  /-- The values that are accepted; a switch takes none. -/
  accepts : Option (String → Bool)
  /-- The variable that gives the value where no argument does. -/
  environment : Option String

namespace Parameter

/-- A parameter for a path, which is any text that is not empty. -/
def path (name : String) (letter : Option Char) (environment : Option String) : Parameter :=
  ⟨name, letter, some (!·.isEmpty), environment⟩

/-- A parameter for one of several words. -/
def choice (name : String) (letter : Option Char) (words : List String) : Parameter :=
  ⟨name, letter, some words.contains, none⟩

/-- A parameter that stands alone. -/
def switch (name : String) (letter : Option Char) : Parameter := ⟨name, letter, none, none⟩

end Parameter

/-- Why a command is not run. -/
inductive Halt where
  /-- The arguments are none that it takes. -/
  | misuse
  /-- Only help was asked for. -/
  | help
  deriving DecidableEq, Repr

/-- What is said to a command: values by the names of the parameters, and an empty value for a
switch. -/
abbrev Settings := List (String × String)

/-- An argument by its form. -/
inductive Argument where
  /-- Two dashes alone: no parameters follow. -/
  | separator
  /-- The name of a parameter after two dashes, perhaps with a value. -/
  | named (name : String) (value : Option String)
  /-- Letters of parameters after a dash. -/
  | letters (cs : List Char)
  /-- Anything else. A dash alone is of this form. -/
  | value (text : String)
  deriving DecidableEq, Repr

/-- The form of an argument. -/
def Argument.ofString (s : String) : Argument :=
  match s.toList with
  | ['-', '-'] => separator
  | '-' :: '-' :: cs =>
    match cut '=' cs with
    | some (name, v) => named (String.ofList name) (some (String.ofList v))
    | none => named (String.ofList cs) none
  | '-' :: c :: cs => letters (c :: cs)
  | _ => value s

namespace Settings

/-- The parameter with the value that is given for it. -/
def give (done : Settings) (p : Parameter) (value : String) : Except Halt Settings :=
  if done.any (·.1 == p.name) then .error .misuse
  else if p.accepts.all (· value) then .ok ((p.name, value) :: done)
  else .error .misuse

/-- Parameters given by their letters, and the last one of them if its value is still to come. -/
def giveLetters (ps : List Parameter) (done : Settings) :
    List Char → Except Halt (Settings × Option Parameter)
  | [] => .ok (done, none)
  | c :: cs =>
    if c = 'h' then .error .help
    else match ps.find? (·.letter == some c) with
      | none => .error .misuse
      | some p =>
        if p.accepts.isNone then do
          let done ← done.give p ""
          giveLetters ps done cs
        else match cs with
          | [] => .ok (done, some p)
          | '=' :: value => (done.give p (String.ofList value)).map (·, none)
          | value => (done.give p (String.ofList value)).map (·, none)

/-- A parameter given by its name, and the parameter itself if its value is still to come. -/
def giveNamed (ps : List Parameter) (done : Settings) (name : String) (value : Option String) :
    Except Halt (Settings × Option Parameter) :=
  match ps.find? (·.name == name) with
  | none => .error (if name = "help" && value.isNone then .help else .misuse)
  | some p =>
    match p.accepts, value with
    | none, none => (done.give p "").map (·, none)
    | none, some _ => .error .misuse
    | some _, some v => (done.give p v).map (·, none)
    | some _, none => .ok (done, some p)

/-- What the arguments say, given the parameter whose value is still to come and what was said
before. -/
def ofArgumentsFrom (ps : List Parameter) (pending : Option Parameter) (done : Settings) :
    List String → Except Halt Settings
  | [] => if pending.isSome then .error .misuse else .ok done
  | arg :: args =>
    match Argument.ofString arg, pending with
    | .value v, some p => do ofArgumentsFrom ps none (← done.give p v) args
    | .value _, none => .error .misuse
    | _, some _ => .error .misuse
    | .separator, none => if args.isEmpty then .ok done else .error .misuse
    | .named name value, none => do
      let (done, pending) ← giveNamed ps done name value
      ofArgumentsFrom ps pending done args
    | .letters cs, none => do
      let (done, pending) ← giveLetters ps done cs
      ofArgumentsFrom ps pending done args

/-- What the environment says about the parameters that the arguments do not mention. -/
def complete (environment : String → Option String) (done : Settings) :
    List Parameter → Except Halt Settings
  | [] => .ok done
  | p :: ps =>
    match done.any (·.1 == p.name), p.environment.bind environment with
    | false, some value => do complete environment (← done.give p value) ps
    | _, _ => complete environment done ps

/-- What is said to a command that takes the given parameters. -/
def ofArguments (environment : String → Option String) (ps : List Parameter)
    (args : List String) : Except Halt Settings := do
  complete environment (← ofArgumentsFrom ps none [] args) ps

/-- The value of a parameter. -/
def value? (s : Settings) (name : String) : Option String := s.lookup name

/-- The value of a parameter that has to be there. -/
def value (s : Settings) (name : String) : Except Halt String :=
  match s.value? name with
  | some v => .ok v
  | none => .error .misuse

end Settings

end ImageDiscovery.Command
