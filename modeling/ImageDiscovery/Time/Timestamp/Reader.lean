import ImageDiscovery.Text.Blank
import ImageDiscovery.Text.Decimal
import ImageDiscovery.Time.Timestamp

/-!
# Reading timestamps

A timestamp is a date, a time of the day and an offset from UTC. The strict reading takes numbers of
fixed width and nothing else; the relaxed one takes numbers of fewer digits, signed years, spaces
around the parts, offsets with or without a colon, and `UTC`. Both refuse what the calendar and the
clock do not have, and allow a second `60`.

## Main definitions

* `Time.Timestamp.ofStrict?`, `Time.Timestamp.ofRelaxed?` — the timestamp that a text writes.
-/

namespace ImageDiscovery.Time

open Text

/-- What a text says about a point in time. -/
structure Reading where
  year : Int
  month : Nat
  day : Nat
  hour : Nat
  minute : Nat
  second : Nat
  nanos : Nat
  /-- How many seconds the clock is ahead of UTC. -/
  offset : Int

/-- The years of the calendar that timestamps can lie in. -/
def yearInRange (y : Int) : Bool := -262143 ≤ y && y ≤ 262142

/-- The point in time, if the calendar and the clock have it. -/
def Reading.timestamp? (r : Reading) : Option Timestamp :=
  let date : Date := ⟨r.year, r.month, r.day⟩
  if !(yearInRange r.year && date.isValid && r.hour < 24 && r.minute < 60 && r.second ≤ 60 &&
      r.offset.natAbs < 86400) then none
  else
    let leap : Nat := if r.second == 60 then 1 else 0
    let clock := date.days * 86400 + r.hour * 3600 + r.minute * 60 + ((r.second : Int) - leap)
    let utc := clock - r.offset
    if yearInRange (Date.ofDays (utc / 86400)).year then
      some ⟨utc, r.nanos + leap * Timestamp.nanosPerSecond⟩
    else none

namespace Reading

/-- Between `least` and `greatest` digits at the beginning of a text, as many as there are, and what
follows them. -/
def digits (least greatest : Nat) (s : List Char) : Option (Nat × List Char) :=
  let ds := (s.take greatest).takeWhile isDigit
  if ds.length < least then none else some (valueOfDigits ds, s.drop ds.length)

/-- All digits at the beginning of a text, and what follows them. -/
def allDigits (s : List Char) : Option (Nat × List Char) :=
  match s.takeWhile isDigit with
  | [] => none
  | ds => some (valueOfDigits ds, s.dropWhile isDigit)

/-- A character that has to stand at the beginning of a text. -/
def expect (c : Char) : List Char → Option (List Char)
  | [] => none
  | d :: s => if d = c then some s else none

/-- The fraction of a second after its point, in nanoseconds; digits after the ninth are dropped. -/
def fraction (s : List Char) : Option (Nat × List Char) :=
  match s with
  | '.' :: s =>
    let ds := (s.take 9).takeWhile isDigit
    if ds.isEmpty then none
    else some (valueOfDigits (ds ++ List.replicate (9 - ds.length) '0'), s.dropWhile isDigit)
  | s => some (0, s)

/-- The mark between date and time. -/
def timeMark : List Char → Option (List Char)
  | 'T' :: s => some s
  | 't' :: s => some s
  | ' ' :: s => some s
  | _ => none

/-- An offset from UTC in seconds. `separator` takes what may stand between hours and minutes. -/
def zone (separator : List Char → Option (List Char)) (s : List Char) :
    Option (Int × List Char) :=
  match s with
  | [] => none
  | c :: rest =>
    if c == 'Z' || c == 'z' then some (0, rest)
    else do
      let sign : Int ←
        if c == '+' then some 1 else if c == '-' || c == '\u2212' then some (-1) else none
      let (hours, rest) ← digits 2 2 rest
      let rest ← separator rest
      let (minutes, rest) ← digits 2 2 rest
      if minutes < 60 then some (sign * (hours * 3600 + minutes * 60), rest) else none

/-! ### The strict reading -/

/-- What a text says by the strict reading. -/
def ofStrict? (s : List Char) : Option Reading := do
  let (year, s) ← digits 4 4 s
  let (month, s) ← digits 2 2 (← expect '-' s)
  let (day, s) ← digits 2 2 (← expect '-' s)
  let (hour, s) ← digits 2 2 (← timeMark s)
  let (minute, s) ← digits 2 2 (← expect ':' s)
  let (second, s) ← digits 2 2 (← expect ':' s)
  let (nanos, s) ← fraction s
  let (offset, s) ← zone (expect ':') s
  if s.isEmpty then some ⟨year, month, day, hour, minute, second, nanos, offset⟩ else none

/-! ### The relaxed reading -/

/-- A number of one or two digits, after any spaces. -/
def spacedNumber (s : List Char) : Option (Nat × List Char) := digits 1 2 (trimStart s)

/-- A character that has to stand after any spaces. -/
def spacedExpect (c : Char) (s : List Char) : Option (List Char) := expect c (trimStart s)

/-- A year, after any spaces: up to four digits, or any number of them after a sign. -/
def spacedYear (s : List Char) : Option (Int × List Char) :=
  match trimStart s with
  | '-' :: s => (allDigits s).map fun r => (-(r.1 : Int), r.2)
  | '+' :: s => (allDigits s).map fun r => ((r.1 : Int), r.2)
  | s => (digits 1 4 s).map fun r => ((r.1 : Int), r.2)

/-- An offset from UTC, or the name `UTC` in any case of its letters. -/
def namedZone (s : List Char) : Option (Int × List Char) :=
  if eqIgnoringCase (s.take 3) "UTC".toList then some (0, s.drop 3)
  else zone (fun s => some (s.dropWhile fun c => c == ':' || isBlank c)) s

/-- What a text says by the relaxed reading. -/
def ofRelaxed? (s : List Char) : Option Reading := do
  let (year, s) ← spacedYear s
  let (month, s) ← spacedNumber (← spacedExpect '-' s)
  let (day, s) ← spacedNumber (← spacedExpect '-' s)
  let (hour, s) ← spacedNumber (← timeMark s)
  let (minute, s) ← spacedNumber (← spacedExpect ':' s)
  let (second, s) ← spacedNumber (← spacedExpect ':' s)
  let (nanos, s) ← fraction s
  let (offset, s) ← namedZone (trimStart s)
  if (trimStart s).isEmpty then
    some ⟨year, month, day, hour, minute, second, nanos, offset⟩
  else none

end Reading

namespace Timestamp

/-- The timestamp that a text writes, by the strict reading. -/
def ofStrict? (s : String) : Option Timestamp := do (← Reading.ofStrict? s.toList).timestamp?

/-- The timestamp that a text writes, by the relaxed reading. -/
def ofRelaxed? (s : String) : Option Timestamp := do (← Reading.ofRelaxed? s.toList).timestamp?

end Timestamp

end ImageDiscovery.Time
