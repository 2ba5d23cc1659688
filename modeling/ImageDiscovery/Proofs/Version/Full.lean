import ImageDiscovery.Proofs.Version.Clause

/-!
# Full versions in constraints

The versions of tags and those of terms are read by readers of their own. Where all three numbers
are given, a term reads what a tag does, with one exception: both pass over a mark `v`, but a term
does not pass over the capital, and so refuses the version. An operator with a full version after it
is one word.

## Main results

* `Constraint.Partial.ofChars?_of_version` — a full version is read as such by a term.
* `Constraint.ofTerm_append_version`, `Constraint.ofTerm_append_capital` — the term of an operator
  and a full version.
* `Constraint.ofWords_append_version` — the operator and the version are one word.
-/

namespace ImageDiscovery

open Text Version

variable {s : List Char} {x : Char} {w : Version}

/-! ### Reading a full version -/

theorem Text.natUpTo?_cons_eq_none {limit : Nat} (hx : isDigit x = false) :
    natUpTo? limit (x :: s) = none := by
  rw [natUpTo?, List.all_cons, hx]
  rfl

/-- A text that begins neither with a hyphen nor with a build part has numbers that begin so. -/
theorem exists_coreAndPre_cons (hplus : x ≠ '+') (hhyphen : x ≠ '-') (s : List Char) :
    ∃ core text, coreAndPre (withoutBuild (x :: s)) = (x :: core, text) := by
  rw [withoutBuild, List.takeWhile_cons, if_pos (bne_iff_ne.2 hplus), coreAndPre, cut,
    if_neg hhyphen]
  cases cut '-' (s.takeWhile (· != '+')) with
  | none => exact ⟨_, _, rfl⟩
  | some p => exact ⟨_, _, rfl⟩

namespace Version

/-- A tag is read from the text before the first hyphen and the one after it. -/
theorem ofChars?_eq_some_iff {strict : Bool} {core : List Char} {text : Option (List Char)}
    (h : coreAndPre (withoutBuild (withoutMark s)) = (core, text)) :
    ofChars? strict s = some w ↔
      numbersOfChars? strict core = some (w.major, w.minor, w.patch) ∧
        Constraint.Partial.identifiers? text = some w.pre := by
  obtain ⟨major, minor, patch, pre⟩ := w
  have hread : ofChars? strict s = (numbersOfChars? strict core).bind fun n =>
      (Constraint.Partial.identifiers? text).bind fun is => some ⟨n.1, n.2.1, n.2.2, is⟩ := by
    rw [ofChars?, h]
    cases text with
    | none => rfl
    | some text => rfl
  rw [hread]
  simp only [Option.bind_eq_some_iff, Option.some.injEq, Version.mk.injEq, Prod.exists]
  constructor
  · rintro ⟨a, b, c, hnumbers, is, his, rfl, rfl, rfl, rfl⟩
    exact ⟨hnumbers, his⟩
  · rintro ⟨hnumbers, his⟩
    exact ⟨major, minor, patch, hnumbers, pre, his, rfl, rfl, rfl, rfl⟩

theorem mapM_of_numbersOfChars? {core : List Char} {a b c : Nat}
    (h : numbersOfChars? true core = some (a, b, c)) :
    (split '.' core).mapM (natUpTo? wordMax) = some [a, b, c] := by
  obtain ⟨ns, hns, h⟩ := Option.bind_eq_some_iff.1 h
  rw [hns]
  match ns with
  | [a, b, c] =>
    cases h
    rfl

/-- A full version begins with no character of an operator. -/
theorem ofChars?_eq_none (hx : Constraint.Operator.isChar x = true) (s : List Char) :
    ofChars? true (x :: s) = none := by
  obtain ⟨hplus, hhyphen, hdot, hmark, hcapital, hdigit⟩ : x ≠ '+' ∧ x ≠ '-' ∧ x ≠ '.' ∧ x ≠ 'v' ∧
      x ≠ 'V' ∧ isDigit x = false := by
    rcases Constraint.Operator.mem_of_isChar hx with rfl | rfl | rfl | rfl | rfl | rfl
    all_goals decide
  have hs : withoutMark (x :: s) = x :: s := by
    rw [withoutMark]
    · exact fun r hr => hmark (List.cons.inj hr).1
    · exact fun r hr => hcapital (List.cons.inj hr).1
  obtain ⟨core, text, hcut⟩ := exists_coreAndPre_cons hplus hhyphen s
  refine Option.eq_none_iff_forall_ne_some.2 fun w hw => ?_
  have hparts := mapM_of_numbersOfChars? ((ofChars?_eq_some_iff (hs.symm ▸ hcut)).1 hw).1
  rw [split_cons hdot, List.mapM_cons, natUpTo?_cons_eq_none hdigit] at hparts
  cases hparts

end Version

namespace Constraint

namespace Partial

theorem isWildcard_eq_false {limit n : Nat} (h : natUpTo? limit s = some n) :
    isWildcard s = false := by
  refine Bool.eq_false_iff.2 fun hwild => ?_
  simp only [isWildcard, Bool.or_eq_true, beq_iff_eq] at hwild
  rcases hwild with (rfl | rfl) | rfl
  all_goals cases (natUpTo?_cons_eq_none (by decide)).symm.trans h

/-- Numbers without wildcards are read one by one, a number for each part. -/
theorem numbersOfParts?_of_mapM {ps : List (List Char)} {ns : List Nat}
    (h : ps.mapM (natUpTo? wordMax) = some ns) :
    numbersOfParts? ps = some ns ∧ ps.length = ns.length := by
  induction ps generalizing ns with
  | nil =>
    obtain rfl := Option.some.inj h
    exact ⟨rfl, rfl⟩
  | cons p ps ih =>
    rw [List.mapM_cons] at h
    obtain ⟨n, hn, h⟩ := Option.bind_eq_some_iff.1 h
    obtain ⟨ms, hms, h⟩ := Option.bind_eq_some_iff.1 h
    obtain rfl := Option.some.inj h
    obtain ⟨hread, hlen⟩ := ih hms
    rw [numbersOfParts?, isWildcard_eq_false hn, if_neg Bool.false_ne_true, hn, hread]
    exact ⟨rfl, congrArg (· + 1) hlen⟩

/-- Unless it is a capital, a mark is passed over by both readings. -/
theorem withoutMark_eq (h : s.head? ≠ some 'V') : Version.withoutMark s = withoutMark s := by
  cases s with
  | nil => rfl
  | cons x s =>
    by_cases hmark : x = 'v'
    · rw [hmark]
      rfl
    · have hcapital : x ≠ 'V' := fun hx => h (hx ▸ rfl)
      rw [Version.withoutMark, withoutMark]
      · exact fun r hr => hmark (List.cons.inj hr).1
      · exact fun r hr => hmark (List.cons.inj hr).1
      · exact fun r hr => hcapital (List.cons.inj hr).1

/-- A full version is read as such after an operator, unless its mark is a capital. -/
theorem ofChars?_of_version (h : Version.ofChars? true s = some w) (hmark : s.head? ≠ some 'V') :
    Partial.ofChars? s = some ⟨w.numbers, w.pre⟩ := by
  cases hcut : coreAndPre (withoutBuild (withoutMark s)) with
  | mk core text =>
  obtain ⟨hnumbers, his⟩ :=
    (Version.ofChars?_eq_some_iff ((withoutMark_eq hmark).symm ▸ hcut)).1 h
  have hparts := mapM_of_numbersOfChars? hnumbers
  have hcore : parts core = split '.' core := if_neg fun hnil => by
    rw [List.isEmpty_iff.1 hnil] at hparts
    cases hparts
  obtain ⟨hread, hlen⟩ := numbersOfParts?_of_mapM hparts
  exact (ofChars?_eq_some_iff hcut).2
    ⟨his, hcore ▸ Nat.le_of_eq hlen, hcore ▸ hread, fun _ => rfl⟩

/-- A version with a capital mark is not read after an operator. -/
theorem ofChars?_capital (s : List Char) : Partial.ofChars? ('V' :: s) = none := by
  have hbegins : ∃ core text, coreAndPre (withoutBuild ('V' :: s)) = ('V' :: core, text) :=
    exists_coreAndPre_cons (by decide) (by decide) s
  obtain ⟨core, text, hcut⟩ := hbegins
  refine Option.eq_none_iff_forall_ne_some.2 fun p hp => ?_
  obtain ⟨-, -, hnumbers, -⟩ := (ofChars?_eq_some_iff (s := 'V' :: s) hcut).1 hp
  have hparts : parts ('V' :: core) = split '.' ('V' :: core) := rfl
  rw [hparts, split_cons (by decide), numbersOfParts?,
    natUpTo?_cons_eq_none (by decide)] at hnumbers
  split at hnumbers
  · next hwild => simp [isWildcard] at hwild
  · cases hnumbers

end Partial

/-! ### Terms of a full version -/

variable {p : List Char}

/-- A full version begins with no character of an operator. -/
theorem exists_eq_cons_of_version (hp : Version.ofChars? true p = some w) :
    ∃ x s, p = x :: s ∧ Operator.isChar x = false := by
  cases p with
  | nil => cases hp
  | cons x s =>
    refine ⟨x, s, rfl, Bool.eq_false_iff.2 fun hx => ?_⟩
    cases (Version.ofChars?_eq_none hx s).symm.trans hp

/-- A term of an operator and a full version asks what the operator asks, unless the mark of the
version is a capital. -/
theorem ofTerm_append_version (hp : Version.ofChars? true p = some w)
    (hmark : p.head? ≠ some 'V') (op : Operator) :
    Constraint.ofTerm (op.text.toList ++ p) = op.ofPartial ⟨w.numbers, w.pre⟩ := by
  have hread := Partial.ofChars?_of_version hp hmark
  obtain ⟨x, s, rfl, hx⟩ := exists_eq_cons_of_version hp
  rw [Constraint.ofTerm, Operator.ofTerm_append hx]
  simp only [hread]
  rfl

/-- A term with a capital mark is refused. -/
theorem ofTerm_append_capital (s : List Char) (op : Operator) :
    Constraint.ofTerm (op.text.toList ++ 'V' :: s) =
      .error (.invalidVersion (String.ofList ('V' :: s))) := by
  rw [Constraint.ofTerm, Operator.ofTerm_append (by decide)]
  simp only [Partial.ofChars?_capital]

/-- An operator with a full version after it is one word. -/
theorem ofWords_append_version (hp : Version.ofChars? true p = some w)
    (hword : ∀ x ∈ p, isBlank x = false) (op : Operator) :
    ofWords (words (op.text.toList ++ p)) = Constraint.ofTerm (op.text.toList ++ p) := by
  obtain ⟨x, s, hcons, hx⟩ := exists_eq_cons_of_version hp
  have hmem : x ∈ op.text.toList ++ p :=
    List.mem_append_right _ (hcons ▸ List.mem_cons_self)
  have hblank : ∀ y ∈ op.text.toList ++ p, isBlank y = false :=
    List.forall_mem_append.2 ⟨op.isBlank_of_mem_text, hword⟩
  have hwords := words_append (s := []) (List.ne_nil_of_mem hmem) hblank nofun
  rw [List.append_nil, words_nil] at hwords
  rw [hwords, ofWords_singleton (List.all_eq_false.2 ⟨x, hmem, Bool.eq_false_iff.1 hx⟩)]

end Constraint

end ImageDiscovery
