import ImageDiscovery.Proofs.Version.Full

/-!
# Tags as they are written

A tag that writes a version may begin with a mark, which is one `v` of either case. Then come the
numbers, from one to three of them, with dots between them; after a hyphen the identifiers of a
pre-release, with dots between them; and after a plus any text. The numbers end at the first hyphen
and the identifiers at the first plus, so that hyphens may stand in identifiers and anything may
stand after the plus.

A tag is read exactly if it is written so, by the strict reading if all three numbers are given. It
is read as what it says: missing numbers are zero, and an identifier is a number if it is made of
digits and fits a machine word.

## Main definitions

* `Mark` — what may stand before the numbers.
* `TagText` — a tag as it is written, with its text and the version that it says.

## Main results

* `Version.exists_mark_of_withoutMark`, `Version.withoutBuild_eq_iff` — how a tag is cut.
* `Version.numbersOfChars?_eq_some_iff` — which numbers are read.
* `Version.ofTag?_eq_some_iff` — which tags are read, and as what.
-/

namespace ImageDiscovery

open Text Version

/-! ### Cutting a tag -/

/-- What stands before the numbers of a tag. -/
inductive Mark where
  | none | lower | upper
  deriving DecidableEq

/-- How a mark is written. -/
def Mark.text : Mark → List Char
  | none => []
  | lower => ['v']
  | upper => ['V']

namespace Version

variable {s : List Char}

/-- The mark is passed over, and a text that begins with a mark has one. -/
theorem exists_mark_of_withoutMark (s : List Char) :
    ∃ mark : Mark, s = mark.text ++ withoutMark s := by
  unfold withoutMark
  split
  · exact ⟨.lower, rfl⟩
  · exact ⟨.upper, rfl⟩
  · exact ⟨.none, rfl⟩

/-- No other character is taken for a mark. -/
theorem withoutMark_text_append (mark : Mark) (h : ∀ c ∈ s.head?, c ≠ 'v' ∧ c ≠ 'V') :
    withoutMark (mark.text ++ s) = s := by
  cases mark with
  | lower => rfl
  | upper => rfl
  | none =>
    rw [Mark.text, List.nil_append]
    unfold withoutMark
    split
    · exact absurd rfl (h 'v' rfl).1
    · exact absurd rfl (h 'V' rfl).2
    · rfl

/-- The build part begins at the first plus. -/
theorem withoutBuild_eq_iff {r : List Char} : withoutBuild s = r ↔
    '+' ∉ r ∧ ∃ build, s = r ++ partAfter '+' build := by
  constructor
  · rintro rfl
    refine ⟨fun h => by simpa using List.mem_takeWhile_imp h, ?_⟩
    have happend := List.takeWhile_append_dropWhile (p := (· != '+')) (l := s)
    cases hdrop : s.dropWhile (· != '+') with
    | nil =>
      rw [hdrop] at happend
      exact ⟨none, happend.symm⟩
    | cons c b =>
      obtain rfl : c = '+' := by
        have hhead := List.head?_dropWhile_not (· != '+') s
        simpa [hdrop] using hhead
      rw [hdrop] at happend
      exact ⟨some b, happend.symm⟩
  · rintro ⟨h, build, rfl⟩
    have hr : ∀ c ∈ r, (c != '+') = true := fun c hc => bne_iff_ne.2 fun heq => h (heq ▸ hc)
    rw [withoutBuild, List.takeWhile_append_of_pos hr]
    cases build with
    | none => exact List.append_nil r
    | some b =>
      rw [partAfter, List.takeWhile_cons_of_neg (by decide)]
      exact List.append_nil r

/-- The number in the given place, which is zero if it is missing. -/
def numberAt (ns : List Numeral) (i : Nat) : Nat := (ns[i]?.map (·.value)).getD 0

/-- Up to three numbers are read, and exactly three by the strict reading. -/
theorem numbersOfChars?_eq_some_iff {strict : Bool} {a b c : Nat} :
    numbersOfChars? strict s = some (a, b, c) ↔ ∃ ns : List Numeral,
      join '.' (ns.map (·.digits)) = s ∧ 0 < ns.length ∧ ns.length ≤ 3 ∧
      (strict = true → ns.length = 3) ∧
      a = numberAt ns 0 ∧ b = numberAt ns 1 ∧ c = numberAt ns 2 := by
  have hread (ms : List Nat) : (split '.' s).mapM (natUpTo? wordMax) = some ms ↔
      ∃ ns : List Numeral, ns ≠ [] ∧ join '.' (ns.map (·.digits)) = s ∧ ns.map (·.value) = ms :=
    mapM_split_eq_some_iff_exists natUpTo?_eq_some_iff_exists Numeral.dot_not_mem
  rw [numbersOfChars?, Option.bind_eq_bind, Option.bind_eq_some_iff]
  constructor
  · rintro ⟨ms, hms, h⟩
    obtain ⟨ns, -, hns, rfl⟩ := (hread ms).1 hms
    refine ⟨ns, hns, ?_⟩
    match ns, strict, h with
    | [n], false, h =>
      cases h
      exact ⟨Nat.succ_pos _, by simp, nofun, rfl, rfl, rfl⟩
    | [n, m], false, h =>
      cases h
      exact ⟨Nat.succ_pos _, by simp, nofun, rfl, rfl, rfl⟩
    | [n, m, k], _, h =>
      cases h
      exact ⟨Nat.succ_pos _, by simp, fun _ => rfl, rfl, rfl, rfl⟩
  · rintro ⟨ns, hns, hpos, hle, hstrict, rfl, rfl, rfl⟩
    refine ⟨ns.map (·.value), (hread _).2 ⟨ns, List.length_pos_iff.1 hpos, hns, rfl⟩, ?_⟩
    match ns, strict, hpos, hle, hstrict with
    | [n], false, _, _, _ => rfl
    | [n, m], false, _, _, _ => rfl
    | [n, m, k], _, _, _, _ => rfl
    | [n], true, _, _, hstrict => exact absurd (hstrict rfl) (by simp)
    | [n, m], true, _, _, hstrict => exact absurd (hstrict rfl) (by simp)

end Version

/-! ### Written tags -/

/-- A tag that writes a version. It is a release if it has no identifiers. -/
structure TagText where
  mark : Mark
  numbers : List Numeral
  pre : List IdentifierText
  build : Option (List Char)
  pos : 0 < numbers.length
  le_three : numbers.length ≤ 3

namespace TagText

variable (t : TagText)

/-- The numbers with dots between them. -/
def core : List Char := join '.' (t.numbers.map (·.digits))

/-- The identifiers with dots between them, if there are any. -/
def preText : Option (List Char) :=
  if t.pre.isEmpty then none else some (join '.' (t.pre.map (·.chars)))

/-- The characters of the tag. -/
def chars : List Char :=
  t.mark.text ++ (t.core ++ partAfter '-' t.preText ++ partAfter '+' t.build)

/-- How the tag is written. -/
def text : String := String.ofList t.chars

/-- The version that the tag says. -/
def value : Version :=
  ⟨numberAt t.numbers 0, numberAt t.numbers 1, numberAt t.numbers 2, t.pre.map (·.value)⟩

variable {t}

theorem mem_core {c : Char} (h : c ∈ t.core) : c = '.' ∨ isDigit c = true := by
  rcases mem_join h with h | ⟨s, hs, hc⟩
  · exact .inl h
  · obtain ⟨n, -, rfl⟩ := List.mem_map.1 hs
    exact .inr (n.isDigit c hc)

theorem mem_preText {s : List Char} {c : Char} (h : t.preText = some s) (hc : c ∈ s) :
    c = '.' ∨ Identifier.isChar c = true := by
  rw [preText, Option.ite_none_left_eq_some, Option.some.injEq] at h
  obtain ⟨-, rfl⟩ := h
  exact mem_join_chars hc

/-- The numbers begin with a digit. -/
theorem isDigit_of_mem_head? {s : List Char} : ∀ c ∈ (t.core ++ s).head?, isDigit c = true := by
  obtain ⟨n, ns, hns⟩ := List.exists_cons_of_ne_nil (List.length_pos_iff.1 t.pos)
  obtain ⟨d, ds, hds⟩ := List.exists_cons_of_ne_nil n.ne_nil
  obtain ⟨r, hr⟩ : ∃ r, t.core = d :: r := by
    rw [core, hns, List.map_cons, hds]
    exact exists_join_eq_cons
  intro c hc
  rw [hr, List.cons_append, List.head?_cons, Option.mem_some_iff] at hc
  exact hc ▸ n.isDigit d (hds ▸ List.mem_cons_self)

/-- A written tag is cut into its parts. -/
theorem coreAndPre_chars (t : TagText) :
    coreAndPre (withoutBuild (withoutMark t.chars)) = (t.core, t.preText) := by
  have hmark : withoutMark t.chars =
      t.core ++ partAfter '-' t.preText ++ partAfter '+' t.build := by
    refine withoutMark_text_append t.mark fun c hc => ?_
    rw [List.append_assoc] at hc
    have hdigit := isDigit_of_mem_head? c hc
    refine ⟨?_, ?_⟩
    · rintro rfl
      exact absurd hdigit (by decide)
    · rintro rfl
      exact absurd hdigit (by decide)
  have hplus : '+' ∉ t.core ++ partAfter '-' t.preText := by
    rw [List.mem_append, not_or]
    refine ⟨fun h => absurd (mem_core h) (by decide), fun h => ?_⟩
    cases hpre : t.preText with
    | none =>
      rw [hpre] at h
      cases h
    | some s =>
      rw [hpre] at h
      rcases List.mem_cons.1 h with h | h
      · cases h
      · exact absurd (mem_preText hpre h) (by decide)
  rw [hmark, withoutBuild_eq_iff.2 ⟨hplus, t.build, rfl⟩]
  exact coreAndPre_eq_iff.2 ⟨fun h => absurd (mem_core h) (by decide), rfl⟩

/-- A written tag is read as what it says, by the strict reading if it has three numbers. -/
theorem ofChars?_chars (t : TagText) {strict : Bool} (h : strict = true → t.numbers.length = 3) :
    Version.ofChars? strict t.chars = some t.value := by
  refine (Version.ofChars?_eq_some_iff t.coreAndPre_chars).2 ⟨?_, ?_⟩
  · exact numbersOfChars?_eq_some_iff.2 ⟨t.numbers, rfl, t.pos, t.le_three, h, rfl, rfl, rfl⟩
  · unfold preText
    cases hpre : t.pre with
    | nil => rw [value, hpre]; rfl
    | cons i is =>
      rw [value, hpre]
      exact listOfChars?_join (List.cons_ne_nil i is)

end TagText

namespace Version

/-- What is read is written. -/
theorem exists_tagText {strict : Bool} {s : List Char} {v : Version}
    (h : ofChars? strict s = some v) :
    ∃ t : TagText, t.chars = s ∧ t.value = v ∧ (strict = true → t.numbers.length = 3) := by
  cases hcut : coreAndPre (withoutBuild (withoutMark s)) with
  | mk core text =>
  obtain ⟨hnumbers, his⟩ := (ofChars?_eq_some_iff hcut).1 h
  obtain ⟨mark, hmark⟩ := exists_mark_of_withoutMark s
  obtain ⟨-, build, hbuild⟩ := withoutBuild_eq_iff.1 (rfl : withoutBuild (withoutMark s) = _)
  obtain ⟨-, hcore⟩ := coreAndPre_eq_iff.1 hcut
  obtain ⟨ns, rfl, hpos, hle, hstrict, hmajor, hminor, hpatch⟩ :=
    numbersOfChars?_eq_some_iff.1 hnumbers
  obtain ⟨ts, htext, hpre⟩ : ∃ ts : List IdentifierText,
      (if ts.isEmpty then none else some (join '.' (ts.map (·.chars)))) = text ∧
        ts.map (·.value) = v.pre := by
    cases text with
    | none => exact ⟨[], rfl, (Option.some.inj his)⟩
    | some text =>
      obtain ⟨ts, hne, rfl, hpre⟩ := listOfChars?_eq_some_iff.1 his
      exact ⟨ts, if_neg (by simpa using hne), hpre⟩
  refine ⟨⟨mark, ns, ts, build, hpos, hle⟩, ?_, ?_, hstrict⟩
  · rw [hmark, hbuild, hcore, ← htext]
    rfl
  · rw [TagText.value, ← hmajor, ← hminor, ← hpatch, hpre]

/-- **Which tags are read.** A tag is read exactly if it is written by the grammar, with all three
numbers for the strict reading, and then as the version that it says. What is read strictly is read
so leniently. -/
theorem ofTag?_eq_some_iff (s : String) (v : Version) :
    (∀ strict, ofTag? strict s = some v ↔
      ∃ t : TagText, t.text = s ∧ t.value = v ∧ (strict = true → t.numbers.length = 3)) ∧
    (ofTag? true s = some v → ofTag? false s = some v) := by
  have hread (strict : Bool) : ofTag? strict s = some v ↔
      ∃ t : TagText, t.text = s ∧ t.value = v ∧ (strict = true → t.numbers.length = 3) := by
    constructor
    · intro h
      obtain ⟨t, ht, hvalue, hstrict⟩ := exists_tagText h
      exact ⟨t, by rw [TagText.text, ht, String.ofList_toList], hvalue, hstrict⟩
    · rintro ⟨t, rfl, rfl, hstrict⟩
      rw [ofTag?, TagText.text, String.toList_ofList]
      exact t.ofChars?_chars hstrict
  refine ⟨hread, fun h => ?_⟩
  obtain ⟨t, ht, hvalue, -⟩ := (hread true).1 h
  exact (hread false).2 ⟨t, ht, hvalue, nofun⟩

end Version

end ImageDiscovery
