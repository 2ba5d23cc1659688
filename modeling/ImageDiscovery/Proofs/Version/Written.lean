import Mathlib.Data.List.TakeWhile
import ImageDiscovery.Proofs.Text.Parts
import ImageDiscovery.Version.Constraint

/-!
# Versions as they are written

The parts of which a term of a constraint is written, each with what makes it well formed: numbers
are runs of digits that fit a machine word, wildcards are letters or a star, and identifiers are
runs of letters, digits and hyphens. A partial version has one to three numbers and wildcards,
wildcards last, and identifiers of a pre-release only after three numbers. Each of them is read as
what it says.

## Main definitions

* `Numeral`, `Wildcard`, `IdentifierText` — the parts.
* `PartialText` — a partial version, with its text and what it says.

## Main results

* `listOfChars?_eq_some_iff` — identifiers are read exactly if they are written.
* `Version.coreAndPre_eq_iff` — where the numbers of a version end.
* `PartialText.ofChars?_text` — a partial version is read as what it says.
-/

namespace ImageDiscovery

open Text

/-! ### Numbers, wildcards and identifiers -/

/-- A number as it is written. -/
structure Numeral where
  digits : List Char
  ne_nil : digits ≠ []
  isDigit : ∀ c ∈ digits, Text.isDigit c = true
  le_wordMax : valueOfDigits digits ≤ wordMax

/-- The number that is written. -/
def Numeral.value (n : Numeral) : Nat := valueOfDigits n.digits

theorem Numeral.natUpTo?_digits (n : Numeral) : natUpTo? wordMax n.digits = some n.value :=
  natUpTo?_eq_some_iff.2 ⟨n.ne_nil, n.isDigit, rfl, n.le_wordMax⟩

theorem Numeral.dot_not_mem (n : Numeral) : '.' ∉ n.digits :=
  fun h => absurd (n.isDigit _ h) (by decide)

theorem natUpTo?_eq_some_iff_exists {s : List Char} {n : Nat} :
    natUpTo? wordMax s = some n ↔ ∃ m : Numeral, m.digits = s ∧ m.value = n := by
  rw [natUpTo?_eq_some_iff]
  constructor
  · rintro ⟨hne, hdigits, rfl, hle⟩
    exact ⟨⟨s, hne, hdigits, hle⟩, rfl, rfl⟩
  · rintro ⟨m, rfl, rfl⟩
    exact ⟨m.ne_nil, m.isDigit, rfl, m.le_wordMax⟩

/-- A letter or a star in the place of a number. -/
inductive Wildcard where
  | lower | upper | star
  deriving DecidableEq

/-- How a wildcard is written. -/
def Wildcard.text : Wildcard → List Char
  | lower => ['x']
  | upper => ['X']
  | star => ['*']

/-- No white space stands in an identifier. -/
theorem Identifier.isBlank_of_isChar {c : Char} (h : Identifier.isChar c = true) :
    isBlank c = false := by
  have hcode : 0x2D ≤ c.toNat ∧ c.toNat ≤ 0x7A := by
    simp only [Identifier.isChar, isLetterOrDigit, isLetter, isDigit, Bool.or_eq_true,
      Bool.and_eq_true, decide_eq_true_eq, beq_iff_eq] at h
    rcases h with h | rfl
    · omega
    · decide
  simp only [isBlank, Bool.or_eq_false_iff, Bool.and_eq_false_iff, decide_eq_false_iff_not,
    beq_eq_false_iff_ne]
  omega

/-- An identifier of a pre-release as it is written. -/
structure IdentifierText where
  chars : List Char
  ne_nil : chars ≠ []
  isChar : ∀ c ∈ chars, Identifier.isChar c = true

theorem IdentifierText.dot_not_mem (i : IdentifierText) : '.' ∉ i.chars :=
  fun h => absurd (i.isChar _ h) (by decide)

/-- The identifier that is written: a number if there are digits only and they fit a machine
word. -/
def IdentifierText.value (i : IdentifierText) : Identifier :=
  if i.chars.all isDigit && valueOfDigits i.chars ≤ wordMax then .numeric (valueOfDigits i.chars)
  else .word (String.ofList i.chars)

theorem IdentifierText.ofChars?_chars (i : IdentifierText) :
    Identifier.ofChars? i.chars = some i.value := by
  have hne : i.chars.isEmpty = false := List.isEmpty_eq_false_iff.2 i.ne_nil
  have hall : i.chars.all Identifier.isChar = true := List.all_eq_true.2 i.isChar
  rw [Identifier.ofChars?, hne, hall, Bool.not_true, Bool.or_false, if_neg Bool.false_ne_true,
    value, natUpTo?, hne, Bool.false_or]
  cases hd : i.chars.all isDigit with
  | false => rfl
  | true =>
    by_cases hle : valueOfDigits i.chars ≤ wordMax
    · simp [hle]
    · simp [hle]

theorem Identifier.ofChars?_eq_some_iff_exists {s : List Char} {i : Identifier} :
    Identifier.ofChars? s = some i ↔ ∃ t : IdentifierText, t.chars = s ∧ t.value = i := by
  constructor
  · intro h
    have hread := h
    rw [Identifier.ofChars?, Option.ite_none_left_eq_some] at hread
    obtain ⟨hnot, -⟩ := hread
    simp only [Bool.or_eq_true, List.isEmpty_iff, Bool.not_eq_true', not_or,
      Bool.not_eq_false, List.all_eq_true] at hnot
    let t : IdentifierText := ⟨s, hnot.1, hnot.2⟩
    exact ⟨t, rfl, Option.some.inj (t.ofChars?_chars.symm.trans h)⟩
  · rintro ⟨t, rfl, rfl⟩
    exact t.ofChars?_chars

/-- Parts of which each one is read exactly if it is written are read so one by one. -/
theorem mapM_eq_some_iff_exists {α β : Type} {read : List Char → Option α}
    {text : β → List Char} {value : β → α}
    (h : ∀ {s a}, read s = some a ↔ ∃ b, text b = s ∧ value b = a)
    {ps : List (List Char)} {as : List α} :
    ps.mapM read = some as ↔ ∃ bs : List β, bs.map text = ps ∧ bs.map value = as := by
  induction ps generalizing as with
  | nil =>
    simp only [List.mapM_nil, Option.pure_def, Option.some.injEq, List.map_eq_nil_iff,
      exists_eq_left, List.map_nil]
  | cons p ps ih =>
    rw [List.mapM_cons, Option.bind_eq_bind, Option.bind_eq_some_iff]
    constructor
    · rintro ⟨a, ha, hrest⟩
      obtain ⟨as', has, heq⟩ := Option.bind_eq_some_iff.1 hrest
      obtain ⟨b, rfl, rfl⟩ := h.1 ha
      obtain ⟨bs, rfl, rfl⟩ := ih.1 has
      exact ⟨b :: bs, rfl, Option.some.inj heq⟩
    · rintro ⟨bs, hps, rfl⟩
      obtain ⟨b, bs, rfl, rfl, rfl⟩ := List.map_eq_cons_iff.1 hps
      exact ⟨value b, h.2 ⟨b, rfl, rfl⟩,
        Option.bind_eq_some_iff.2 ⟨bs.map value, ih.2 ⟨bs, rfl, rfl⟩, rfl⟩⟩

/-- Between dots, parts of which each one is read exactly if it is written are read one by one. -/
theorem mapM_split_eq_some_iff_exists {α β : Type} {read : List Char → Option α}
    {text : β → List Char} {value : β → α}
    (h : ∀ {s a}, read s = some a ↔ ∃ b, text b = s ∧ value b = a) (hdot : ∀ b, '.' ∉ text b)
    {s : List Char} {as : List α} :
    (split '.' s).mapM read = some as ↔ ∃ bs : List β,
      bs ≠ [] ∧ join '.' (bs.map text) = s ∧ bs.map value = as := by
  rw [mapM_eq_some_iff_exists h]
  constructor
  · rintro ⟨bs, hbs, rfl⟩
    refine ⟨bs, ?_, by rw [hbs, join_split], rfl⟩
    rintro rfl
    cases hbs
  · rintro ⟨bs, hne, rfl, rfl⟩
    have hparts : ∀ p ∈ bs.map text, '.' ∉ p := List.forall_mem_map.2 fun b _ => hdot b
    exact ⟨bs, (split_join (by simpa using hne) hparts).symm, rfl⟩

/-- A text is read as identifiers exactly if they are written in it with dots between them. -/
theorem listOfChars?_eq_some_iff {s : List Char} {is : List Identifier} :
    Identifier.listOfChars? s = some is ↔ ∃ ts : List IdentifierText,
      ts ≠ [] ∧ join '.' (ts.map (·.chars)) = s ∧ ts.map (·.value) = is :=
  mapM_split_eq_some_iff_exists Identifier.ofChars?_eq_some_iff_exists IdentifierText.dot_not_mem

/-- The identifiers between dots are read one by one. -/
theorem listOfChars?_join {is : List IdentifierText} (hne : is ≠ []) :
    Identifier.listOfChars? (join '.' (is.map (·.chars))) = some (is.map (·.value)) :=
  listOfChars?_eq_some_iff.2 ⟨is, hne, rfl, rfl⟩

theorem mem_join_chars {is : List IdentifierText} {c : Char}
    (h : c ∈ join '.' (is.map (·.chars))) : c = '.' ∨ Identifier.isChar c = true := by
  rcases mem_join h with h | ⟨s, hs, hc⟩
  · exact .inl h
  · obtain ⟨i, -, rfl⟩ := List.mem_map.1 hs
    exact .inr (i.isChar c hc)

/-! ### Cutting a version -/

namespace Version

/-- A part of a version with the sign before it, or nothing if there is no such part. -/
def partAfter (sign : Char) : Option (List Char) → List Char
  | none => []
  | some s => sign :: s

/-- The numbers end at the first hyphen. -/
theorem coreAndPre_eq_iff {s core : List Char} {text : Option (List Char)} :
    coreAndPre s = (core, text) ↔ '-' ∉ core ∧ s = core ++ partAfter '-' text := by
  unfold coreAndPre
  cases hcut : cut '-' s with
  | none =>
    have hs := cut_eq_none_iff.1 hcut
    simp only [Prod.mk.injEq]
    constructor
    · rintro ⟨rfl, rfl⟩
      exact ⟨hs, (List.append_nil _).symm⟩
    · rintro ⟨hcore, rfl⟩
      cases text with
      | none => exact ⟨List.append_nil _, rfl⟩
      | some p => exact absurd (List.mem_append_right _ List.mem_cons_self) hs
  | some p =>
    obtain ⟨a, b⟩ := p
    simp only [Prod.mk.injEq]
    constructor
    · rintro ⟨rfl, rfl⟩
      exact cut_eq_some_iff.1 hcut
    · rintro ⟨hcore, rfl⟩
      cases text with
      | none =>
        rw [partAfter, List.append_nil, cut_eq_none_iff.2 hcore] at hcut
        cases hcut
      | some p =>
        rw [partAfter, cut_eq_some_iff.2 ⟨hcore, rfl⟩, Option.some.injEq, Prod.mk.injEq] at hcut
        exact ⟨hcut.1.symm, congrArg some hcut.2.symm⟩

end Version

/-! ### Partial versions -/

/-- A version of which not all numbers need to be given, as it is written. -/
structure PartialText where
  /-- The letter `v` stands before it. -/
  marked : Bool
  numbers : List Numeral
  wildcards : List Wildcard
  pre : List IdentifierText
  pos : 0 < numbers.length + wildcards.length
  le_three : numbers.length + wildcards.length ≤ 3
  full_of_pre : pre ≠ [] → numbers.length = 3

namespace PartialText

variable (p : PartialText)

/-- The numbers and the wildcards. -/
def parts : List (List Char) := p.numbers.map (·.digits) ++ p.wildcards.map (·.text)

/-- The numbers and the wildcards with dots between them. -/
def core : List Char := join '.' p.parts

/-- The identifiers after a hyphen, with dots between them. -/
def preText : List Char := if p.pre.isEmpty then [] else '-' :: join '.' (p.pre.map (·.chars))

/-- How the version is written. -/
def text : List Char := (if p.marked then ['v'] else []) ++ p.core ++ p.preText

/-- What the version says. -/
def value : Constraint.Partial := ⟨p.numbers.map (·.value), p.pre.map (·.value)⟩

variable {p}

/-- The parts are made of digits and wildcards. -/
theorem mem_parts {s : List Char} (h : s ∈ p.parts) :
    s ≠ [] ∧ ∀ c ∈ s, isDigit c = true ∨ c = 'x' ∨ c = 'X' ∨ c = '*' := by
  rcases List.mem_append.1 h with h | h
  · obtain ⟨n, -, rfl⟩ := List.mem_map.1 h
    exact ⟨n.ne_nil, fun c hc => .inl (n.isDigit c hc)⟩
  · obtain ⟨w, -, rfl⟩ := List.mem_map.1 h
    cases w with
    | lower => simp [Wildcard.text]
    | upper => simp [Wildcard.text]
    | star => simp [Wildcard.text]

theorem parts_ne_nil : p.parts ≠ [] := by
  have hlen : p.parts.length = p.numbers.length + p.wildcards.length := by
    simp [parts]
  intro h
  have hpos := p.pos
  rw [← hlen, h] at hpos
  exact Nat.lt_irrefl 0 hpos

theorem length_parts_le : p.parts.length ≤ 3 := by
  have hlen : p.parts.length = p.numbers.length + p.wildcards.length := by
    simp [parts]
  exact hlen ▸ p.le_three

theorem split_core : split '.' p.core = p.parts := by
  refine split_join parts_ne_nil fun s hs hmem => ?_
  rcases (mem_parts hs).2 _ hmem with h | h | h | h
  · exact absurd h (by decide)
  · exact absurd h (by decide)
  · exact absurd h (by decide)
  · exact absurd h (by decide)

/-- No number follows the first wildcard. -/
theorem numbersOfParts?_append (ns : List Numeral) (ws : List Wildcard) :
    Constraint.Partial.numbersOfParts? (ns.map (·.digits) ++ ws.map (·.text)) =
      some (ns.map (·.value)) := by
  have hwildcard : ∀ w : Wildcard, Constraint.Partial.isWildcard w.text = true := by
    intro w
    cases w <;> decide
  have hnumeral : ∀ n : Numeral, Constraint.Partial.isWildcard n.digits = false := by
    intro n
    have hletter (c : Char) (hc : isDigit c = false) : (n.digits == [c]) = false := by
      refine beq_eq_false_iff_ne.2 fun heq => ?_
      have hdigit := n.isDigit c (heq ▸ List.mem_singleton_self c)
      exact Bool.false_ne_true (hc.symm.trans hdigit)
    rw [Constraint.Partial.isWildcard, hletter 'x' (by decide), hletter 'X' (by decide),
      hletter '*' (by decide)]
    rfl
  induction ns with
  | nil =>
    cases ws with
    | nil => rfl
    | cons w ws =>
      have hall : (ws.map (·.text)).all Constraint.Partial.isWildcard = true := by
        rw [List.all_map]
        exact List.all_eq_true.2 fun v _ => hwildcard v
      rw [List.map_nil, List.nil_append, List.map_cons, Constraint.Partial.numbersOfParts?,
        if_pos (hwildcard w), if_pos hall, List.map_nil]
  | cons n ns ih =>
    rw [List.map_cons, List.cons_append, Constraint.Partial.numbersOfParts?, hnumeral n,
      if_neg Bool.false_ne_true, n.natUpTo?_digits, ih]
    rfl

/-- The text after the letter begins with a digit or a wildcard. -/
theorem exists_core_eq_cons (p : PartialText) : ∃ c s, p.core = c :: s ∧
    (isDigit c = true ∨ c = 'x' ∨ c = 'X' ∨ c = '*') := by
  obtain ⟨q, qs, hparts⟩ := List.exists_cons_of_ne_nil (parts_ne_nil (p := p))
  obtain ⟨hne, hchars⟩ := mem_parts (p := p) (hparts ▸ List.mem_cons_self)
  obtain ⟨c, r, rfl⟩ := List.exists_cons_of_ne_nil hne
  obtain ⟨s, hs⟩ : ∃ s, join '.' ((c :: r) :: qs) = c :: s := exists_join_eq_cons
  exact ⟨c, s, by rw [core, hparts, hs], hchars c List.mem_cons_self⟩

theorem mem_core {c : Char} (h : c ∈ p.core) :
    c = '.' ∨ isDigit c = true ∨ c = 'x' ∨ c = 'X' ∨ c = '*' := by
  rcases mem_join h with h | ⟨s, hs, hc⟩
  · exact .inl h
  · exact .inr ((mem_parts hs).2 c hc)

theorem mem_preText {c : Char} (h : c ∈ p.preText) : c = '.' ∨ Identifier.isChar c = true := by
  unfold preText at h
  split at h
  · exact absurd h List.not_mem_nil
  · rcases List.mem_cons.1 h with rfl | h
    · exact .inr rfl
    · exact mem_join_chars h

/-- The characters that stand in partial versions. -/
theorem mem_text {c : Char} (h : c ∈ p.text) :
    c = '.' ∨ c = '*' ∨ Identifier.isChar c = true := by
  have hdigit (hc : isDigit c = true) : Identifier.isChar c = true := by
    rw [Identifier.isChar, isLetterOrDigit, hc, Bool.or_true, Bool.true_or]
  rw [text, List.mem_append, List.mem_append] at h
  rcases h with (h | h) | h
  · split at h
    · obtain rfl := List.mem_singleton.1 h
      exact .inr (.inr rfl)
    · exact absurd h List.not_mem_nil
  · rcases mem_core h with rfl | hc | rfl | rfl | rfl
    · exact .inl rfl
    · exact .inr (.inr (hdigit hc))
    · exact .inr (.inr rfl)
    · exact .inr (.inr rfl)
    · exact .inr (.inl rfl)
  · exact (mem_preText h).imp_right .inr

/-! ### Reading -/

theorem withoutMark_text (p : PartialText) :
    Constraint.Partial.withoutMark p.text = p.core ++ p.preText := by
  obtain ⟨c, s, hcore, hc⟩ := p.exists_core_eq_cons
  have hv : c ≠ 'v' := by
    rintro rfl
    exact absurd hc (by decide)
  unfold text
  cases p.marked with
  | true => rfl
  | false =>
    rw [if_neg Bool.false_ne_true, List.nil_append, hcore, List.cons_append]
    unfold Constraint.Partial.withoutMark
    split
    · next heq => exact absurd (List.cons.inj heq).1 hv
    · rfl

theorem withoutBuild_core_append (p : PartialText) :
    Version.withoutBuild (p.core ++ p.preText) = p.core ++ p.preText := by
  refine List.takeWhile_eq_self_iff.2 fun c hc => ?_
  have hmem : c ∈ p.text := by
    rw [text, List.append_assoc]
    exact List.mem_append_right _ hc
  refine bne_iff_ne.2 ?_
  rintro rfl
  exact absurd (mem_text hmem) (by decide)

/-- The identifiers begin at the first hyphen. -/
theorem coreAndPre_core_append (p : PartialText) : Version.coreAndPre (p.core ++ p.preText) =
    (p.core, if p.pre.isEmpty then none else some (join '.' (p.pre.map (·.chars)))) := by
  refine Version.coreAndPre_eq_iff.2 ⟨fun h => absurd (mem_core h) (by decide), ?_⟩
  rw [preText]
  cases p.pre.isEmpty <;> rfl

theorem parts_core (p : PartialText) : Constraint.Partial.parts p.core = p.parts := by
  obtain ⟨c, s, hcore, -⟩ := p.exists_core_eq_cons
  rw [Constraint.Partial.parts, if_neg (by rw [hcore]; exact Bool.false_ne_true), split_core]

/-- **A partial version is read as what it says.** -/
theorem ofChars?_text (p : PartialText) : Constraint.Partial.ofChars? p.text = some p.value := by
  have hle : ¬ p.parts.length > 3 := Nat.not_lt.2 length_parts_le
  have hnumbers : Constraint.Partial.numbersOfParts? p.parts = some (p.numbers.map (·.value)) :=
    numbersOfParts?_append p.numbers p.wildcards
  rw [Constraint.Partial.ofChars?, withoutMark_text, withoutBuild_core_append,
    coreAndPre_core_append]
  cases h : p.pre with
  | nil =>
    simp only [List.isEmpty_nil, if_true, Option.bind_eq_bind, Option.bind_some, parts_core, hle,
      hnumbers, Bool.not_true, Bool.false_and, Bool.false_eq_true, if_false, value, h, List.map_nil]
    rfl
  | cons i is =>
    have hlen := p.full_of_pre (by rw [h]; exact List.cons_ne_nil i is)
    have hpre := listOfChars?_join (List.cons_ne_nil i is)
    simp only [List.isEmpty_cons, if_false, Bool.false_eq_true, Option.bind_eq_bind,
      Option.bind_some, hpre, parts_core, hle, hnumbers, value, h, List.length_map, hlen,
      bne_self_eq_false, Bool.and_false]
    rfl

end PartialText

end ImageDiscovery
