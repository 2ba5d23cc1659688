import ImageDiscovery.Registry.Challenge
import ImageDiscovery.Proofs.Document.Lookup
import ImageDiscovery.Proofs.Text.Edges

/-!
# Parameters of challenges

A challenge for a token is written as its scheme and its parameters, each of them a key and a value
between quotes. Keys have no commas, no equals signs and no white space. Values may have all of
these within, since they end at the closing quote and nowhere else. Between two parameters stand a
comma and white space.

What is written so is read as what it says. For any other text it is not told what is read; but the
reading ends, since with each parameter it passes an equals sign.

## Main definitions

* `ParameterText` — a parameter as it is written.
* `WritesParameters` — a text writes parameters, one after another.
* `ParameterText.given?` — the value that is given for a name.
* `Challenge.Scans` — the reading of parameters, one after another.

## Main results

* `ParameterText.parameter?_append` — a written parameter is read, and then the text goes on.
* `Challenge.parametersFrom_of_writes` — the parameters that are read from a written text.
* `Challenge.exists_scans` — every text is read in as many steps as it has equals signs, or fewer.
* `Challenge.ofHeader?_of_writes` — the challenge that is read from a written header.
-/

namespace ImageDiscovery

open Text Document

namespace Challenge

/-- A parameter is read where there is an equals sign: its key before it, and its value behind
it. -/
theorem parameter?_of_cut {s k after : List Char} (h : cut '=' s = some (k, after)) :
    parameter? s = some ((key k, trim (value after).1), skipSeparators (value after).2) := by
  rw [parameter?, h]
  rfl

end Challenge

/-! ### Written parameters -/

/-- A parameter as it is written. Letters and digits may stand in its key. -/
structure ParameterText where
  key : List Char
  value : List Char
  isKeyChar : ∀ c ∈ key, c ≠ '=' ∧ c ≠ ',' ∧ isBlank c = false
  quote_not_mem : '"' ∉ value
  isBlank_head : ∀ c ∈ value.head?, isBlank c = false
  isBlank_last : ∀ c ∈ value.getLast?, isBlank c = false

namespace ParameterText

variable (p : ParameterText)

/-- The characters of a parameter. -/
def chars : List Char := p.key ++ '=' :: '"' :: (p.value ++ ['"'])

/-- What a parameter is read as. -/
def entry : List Char × List Char := (lower p.key, p.value)

/-- The value that is given for a name, in whichever case the name is written. -/
def given? (ps : List ParameterText) (name : String) : Option String :=
  (ps.find? fun p => eqIgnoringCase p.key name.toList).map fun p => String.ofList p.value

/-- No two of the parameters have the same key, in whichever case. -/
def Distinct (ps : List ParameterText) : Prop :=
  ps.Pairwise fun p q => eqIgnoringCase p.key q.key = false

theorem key_eq : Challenge.key p.key = lower p.key := by
  have htrim : trim p.key = p.key := trim_of_forall fun c hc => (p.isKeyChar c hc).2.2
  have hcommas : p.key.dropWhile (· == ',') = p.key :=
    dropWhile_eq_self fun c hc =>
      beq_eq_false_iff_ne.2 (p.isKeyChar c (List.mem_of_mem_head? hc)).2.1
  rw [Challenge.key, htrim, hcommas, htrim]

/-- A written parameter is read, and the text goes on after the separators behind it. -/
theorem parameter?_append (rest : List Char) :
    Challenge.parameter? (p.chars ++ rest) = some (p.entry, Challenge.skipSeparators rest) := by
  have hchars : p.chars ++ rest = p.key ++ '=' :: '"' :: (p.value ++ '"' :: rest) := by
    simp [chars]
  have hkey : cut '=' (p.chars ++ rest) = some (p.key, '"' :: (p.value ++ '"' :: rest)) :=
    cut_eq_some_iff.2 ⟨fun h => (p.isKeyChar '=' h).1 rfl, hchars⟩
  have hvalue : Challenge.value ('"' :: (p.value ++ '"' :: rest)) = (p.value, rest) := by
    rw [Challenge.value, cut_eq_some_iff.2 ⟨p.quote_not_mem, rfl⟩]
    rfl
  rw [Challenge.parameter?_of_cut hkey, hvalue, p.key_eq,
    trim_eq_self p.isBlank_head p.isBlank_last, entry]

theorem chars_eq : p.chars = (p.key ++ '=' :: '"' :: p.value) ++ ['"'] := by
  rw [chars, List.append_assoc]
  rfl

/-- A parameter begins with no separator. -/
theorem exists_chars_eq_cons : ∃ c s, p.chars = c :: s ∧ c ≠ ',' ∧ isBlank c = false := by
  cases hkey : p.key with
  | nil => exact ⟨'=', _, by rw [chars, hkey]; rfl, by decide, by decide⟩
  | cons c k =>
    exact ⟨c, _, by rw [chars, hkey]; rfl, (p.isKeyChar c (hkey ▸ List.mem_cons_self)).2⟩

end ParameterText

/-- The text writes the parameters in order, with commas and white space between them. -/
inductive WritesParameters : List ParameterText → List Char → Prop
  | nil : WritesParameters [] []
  | last (p : ParameterText) : WritesParameters [p] p.chars
  | cons (p : ParameterText) {gap : List Char} (hgap : ∀ c ∈ gap, c = ',' ∨ isBlank c = true)
      {q : ParameterText} {ps : List ParameterText} {s : List Char}
      (h : WritesParameters (q :: ps) s) : WritesParameters (p :: q :: ps) (p.chars ++ (gap ++ s))

namespace WritesParameters

variable {p : ParameterText} {ps : List ParameterText} {s : List Char}

theorem exists_eq_cons (h : WritesParameters (p :: ps) s) :
    ∃ c t, s = c :: t ∧ c ≠ ',' ∧ isBlank c = false := by
  obtain ⟨c, t, hp, hc⟩ := p.exists_chars_eq_cons
  cases h with
  | last => exact ⟨c, t, hp, hc⟩
  | cons p hgap h => exact ⟨c, _, by rw [hp]; rfl, hc⟩

theorem getLast?_eq (h : WritesParameters (p :: ps) s) : s.getLast? = some '"' := by
  generalize hqs : p :: ps = qs at h
  induction h generalizing p ps with
  | nil => cases hqs
  | last r => rw [r.chars_eq, List.getLast?_concat]
  | cons r hgap h ih => rw [List.getLast?_append, List.getLast?_append, ih rfl]; rfl

/-- A written text has no white space around it. -/
theorem trim_eq (h : WritesParameters ps s) : trim s = s := by
  cases ps with
  | nil => cases h; rfl
  | cons p ps =>
    obtain ⟨c, t, rfl, -, hc⟩ := h.exists_eq_cons
    refine trim_eq_self (fun d hd => ?_) fun d hd => ?_
    · rwa [← Option.some.inj hd]
    · rw [h.getLast?_eq] at hd
      rw [← Option.some.inj hd]
      decide

end WritesParameters

/-! ### Reading parameters -/

namespace Challenge

variable {done : Parameters} {s rest : List Char} {e : List Char × List Char}
  {ps : List ParameterText}

theorem parametersFrom_of_none (h : parameter? s = none) : parametersFrom done s = done := by
  rw [parametersFrom.eq_def]
  split
  · rfl
  · next hs => cases h.symm.trans hs

theorem parametersFrom_of_some (h : parameter? s = some (e, rest)) :
    parametersFrom done s = parametersFrom (e :: done) rest := by
  rw [parametersFrom.eq_def]
  split
  · next hs => cases h.symm.trans hs
  · next hs =>
    obtain ⟨rfl, rfl⟩ := Prod.mk.inj (Option.some.inj (h.symm.trans hs))
    rfl

/-- Separators are passed over, up to a text that begins with none. -/
theorem skipSeparators_append {gap : List Char} (hgap : ∀ c ∈ gap, c = ',' ∨ isBlank c = true)
    {c : Char} (hc : c ≠ ',' ∧ isBlank c = false) (s : List Char) :
    skipSeparators (gap ++ c :: s) = c :: s := by
  rw [skipSeparators, List.dropWhile_append_of_pos (by simpa using hgap)]
  exact List.dropWhile_cons_of_neg (by simp [hc])

/-- From a written text its parameters are read, the last one first. -/
theorem parametersFrom_of_writes (h : WritesParameters ps s) (done : Parameters) :
    parametersFrom done s = (ps.map (·.entry)).reverse ++ done := by
  induction h generalizing done with
  | nil => exact parametersFrom_of_none rfl
  | last p =>
    have hread := p.parameter?_append []
    rw [List.append_nil] at hread
    rw [parametersFrom_of_some hread]
    exact parametersFrom_of_none rfl
  | cons p hgap h ih =>
    obtain ⟨c, t, rfl, hc⟩ := h.exists_eq_cons
    rw [parametersFrom_of_some (p.parameter?_append _), skipSeparators_append hgap hc, ih]
    simp

/-- The reading of a text after the parameters that were read before: so many steps, of which each
reads one parameter, up to a text without one. -/
inductive Scans : Parameters → List Char → ℕ → Parameters → Prop
  | stop {done : Parameters} {s : List Char} (h : parameter? s = none) : Scans done s 0 done
  | step {done all : Parameters} {s rest : List Char} {e : List Char × List Char} {n : ℕ}
      (h : parameter? s = some (e, rest)) (hrest : Scans (e :: done) rest n all) :
      Scans done s (n + 1) all

theorem value_snd_suffix (s : List Char) : (value s).2 <:+ s := by
  have hcut (sep : Char) (s : List Char) : ((cut sep s).getD (s, [])).2 <:+ s := by
    cases h : cut sep s with
    | none => exact List.nil_suffix
    | some p =>
      rw [(cut_eq_some_iff.1 h).2]
      exact (List.suffix_cons sep p.2).trans (List.suffix_append p.1 _)
  unfold value
  split
  · exact (hcut '"' _).trans (List.suffix_cons ..)
  · exact hcut ',' _

/-- With each parameter an equals sign is passed. -/
theorem count_lt_of_parameter? (h : parameter? s = some (e, rest)) :
    rest.count '=' < s.count '=' := by
  cases hcut : cut '=' s with
  | none => rw [parameter?, hcut] at h; cases h
  | some p =>
    obtain ⟨k, after⟩ := p
    rw [parameter?_of_cut hcut, Option.some.injEq, Prod.mk.injEq] at h
    have hrest : rest <:+ after :=
      h.2 ▸ (List.dropWhile_suffix _).trans (value_snd_suffix after)
    have hcount : rest.count '=' ≤ after.count '=' := hrest.sublist.count_le '='
    rw [(cut_eq_some_iff.1 hcut).2, List.count_append, List.count_cons_self]
    omega

/-- Every text is read, in no more steps than it has equals signs. -/
theorem exists_scans (done : Parameters) (s : List Char) :
    ∃ n ≤ s.count '=', Scans done s n (parametersFrom done s) := by
  induction h : s.count '=' using Nat.strong_induction_on generalizing done s with
  | _ k ih =>
  cases hread : parameter? s with
  | none =>
    rw [parametersFrom_of_none hread]
    exact ⟨0, Nat.zero_le k, .stop hread⟩
  | some p =>
    obtain ⟨e, rest⟩ := p
    have hlt := count_lt_of_parameter? hread
    obtain ⟨n, hn, hscans⟩ := ih _ (h ▸ hlt) (e :: done) rest rfl
    rw [parametersFrom_of_some hread]
    exact ⟨n + 1, by omega, .step hread hscans⟩

/-! ### Headers -/

theorem lookup_map_entry (k : List Char) : (ps.map (·.entry)).lookup k =
    (ps.find? fun p => lower p.key == k).map (·.value) := by
  induction ps with
  | nil => rfl
  | cons p ps ih =>
    rw [List.map_cons, List.find?_cons, lookup_cons_eq_ite, ih]
    by_cases hk : k = p.entry.1
    · have hkey : (lower p.key == k) = true := beq_iff_eq.2 hk.symm
      rw [if_pos hk, hkey]
      rfl
    · have hkey : (lower p.key == k) = false := beq_eq_false_iff_ne.2 (Ne.symm hk)
      rw [if_neg hk, hkey]

/-- Where keys do not repeat, their order does not matter. -/
theorem lookup_reverse_of_nodup {es : Parameters} (h : (es.map (·.1)).Nodup) (k : List Char) :
    es.reverse.lookup k = es.lookup k := by
  have hreverse : (es.reverse.map (·.1)).Nodup := by
    rw [List.map_reverse]
    exact List.pairwise_reverse.2 (h.imp Ne.symm)
  refine Option.ext fun v => ?_
  rw [← mem_iff_lookup_of_nodup hreverse (e := (k, v)), List.mem_reverse,
    mem_iff_lookup_of_nodup h]

/-- Of the parameters that a text writes, the value for a name is the one that is given for it. -/
theorem value?_parameters (h : WritesParameters ps s) (hps : ParameterText.Distinct ps)
    {name : String} (hname : lower name.toList = name.toList) :
    (parameters s).value? name = ParameterText.given? ps name := by
  have hnodup : ((ps.map (·.entry)).map (·.1)).Nodup := by
    rw [List.map_map, List.Nodup, List.pairwise_map]
    exact hps.imp fun hpq => beq_eq_false_iff_ne.1 hpq
  rw [Parameters.value?, parameters, h.trim_eq, parametersFrom_of_writes h, List.append_nil,
    lookup_reverse_of_nodup hnodup, lookup_map_entry, Option.map_map, ParameterText.given?]
  simp only [eqIgnoringCase, hname]
  rfl

/-- The scheme for tokens has no white space. -/
theorem isBlank_of_mem_scheme {scheme : List Char}
    (h : eqIgnoringCase scheme "bearer".toList = true) : ∀ c ∈ scheme, isBlank c = false := by
  intro c hc
  have hlower : lower scheme = "bearer".toList := beq_iff_eq.1 h
  have hmem : lowerChar c ∈ "bearer".toList := hlower ▸ List.mem_map_of_mem hc
  by_contra hblank
  -- White space has no lower case, so it would be a letter of the scheme itself.
  have hsame : lowerChar c = c := by
    unfold lowerChar
    refine if_neg fun hupper => hblank ?_
    simp only [Bool.and_eq_true, decide_eq_true_eq] at hupper
    simp only [isBlank, Bool.or_eq_false_iff, Bool.and_eq_false_iff, decide_eq_false_iff_not,
      beq_eq_false_iff_ne]
    omega
  have hnone : ∀ d ∈ "bearer".toList, isBlank d = false := by simp [isBlank]
  exact hblank (hnone c (hsame ▸ hmem))

/-- The scheme and the parameters of a header are cut apart at the space between them. -/
theorem cut_of_writes {scheme : List Char} (hscheme : eqIgnoringCase scheme "bearer".toList = true)
    (h : WritesParameters ps s) :
    (cut ' ' (trim (scheme ++ ' ' :: s))).getD (trim (scheme ++ ' ' :: s), []) = (scheme, s) := by
  have hblank := isBlank_of_mem_scheme hscheme
  have hspace : ' ' ∉ scheme := fun hmem => absurd (hblank ' ' hmem) (by decide)
  cases ps with
  | nil =>
    -- The space behind the scheme is lost, and there are no parameters to be lost with it.
    cases h
    rw [trim_append_blank _ (by simp [isBlank]), trim_of_forall hblank, cut_eq_none_iff.2 hspace]
    rfl
  | cons p ps =>
    have htrim : trim (scheme ++ ' ' :: s) = scheme ++ ' ' :: s := by
      refine trim_eq_self (fun c hc => ?_) fun c hc => ?_
      · cases scheme with
        | nil => exact absurd hscheme (by decide)
        | cons d r => exact hblank c (List.mem_of_mem_head? hc)
      · rw [List.append_cons, List.getLast?_append, h.getLast?_eq] at hc
        rw [← Option.some.inj hc]
        decide
    rw [htrim, cut_eq_some_iff.2 ⟨hspace, rfl⟩]
    rfl

/-- A header with the scheme for tokens is read by its parameters. -/
theorem ofHeader?_of_scheme {header : String} {scheme rest : List Char}
    (hcut : (cut ' ' (trim header.toList)).getD (trim header.toList, []) = (scheme, rest))
    (hscheme : eqIgnoringCase scheme "bearer".toList = true) :
    ofHeader? header = ((parameters rest).value? "realm").map fun realm =>
      bearer realm ((parameters rest).value? "service") ((parameters rest).value? "scope") := by
  have hbasic : eqIgnoringCase scheme "basic".toList = false := by
    rw [eqIgnoringCase, beq_iff_eq.1 hscheme]
    decide
  unfold ofHeader?
  dsimp only
  rw [hcut]
  simp only [hbasic, hscheme]
  cases (parameters rest).value? "realm" <;> rfl

/-- **Which challenge a header writes.** A header of the scheme for tokens and of parameters with
different keys, in any order and in whichever case, is read as what it says: a challenge with the
values that are given for the realm, the service and the scope, or none where no realm is given. And
whatever the text, the reading of its parameters ends, in no more steps than the text has equals
signs. -/
theorem ofHeader?_of_writes :
    (∀ (scheme s : List Char) (ps : List ParameterText),
      eqIgnoringCase scheme "bearer".toList = true → ParameterText.Distinct ps →
      WritesParameters ps s → ofHeader? (String.ofList (scheme ++ ' ' :: s)) =
        (ParameterText.given? ps "realm").map fun realm =>
          bearer realm (ParameterText.given? ps "service") (ParameterText.given? ps "scope")) ∧
    ∀ s : List Char, ∃ n ≤ s.count '=', Scans [] s n (parametersFrom [] s) := by
  refine ⟨fun scheme s ps hscheme hps h => ?_, exists_scans []⟩
  have hcut := cut_of_writes hscheme h
  rw [ofHeader?_of_scheme (by rw [String.toList_ofList, hcut]) hscheme,
    value?_parameters h hps (by decide), value?_parameters h hps (by decide),
    value?_parameters h hps (by decide)]

/-- A challenge with its keys and its scheme in mixed case, and with a comma, an equals sign and a
space within values. -/
theorem ofHeader?_of_writes_mixed :
    ofHeader? "bEARER Service=\"\" ,\t SCOPE=\"a:pull,push x=1\",realm=\"https://auth.test\"" =
      some (bearer "https://auth.test" (some "") (some "a:pull,push x=1")) := by
  let service : ParameterText := ⟨"Service".toList, [],
    by simp [isBlank], by simp, by simp, by simp⟩
  let scope : ParameterText := ⟨"SCOPE".toList, "a:pull,push x=1".toList,
    by simp [isBlank], by decide, by simp [isBlank], by simp [isBlank]⟩
  let realm : ParameterText := ⟨"realm".toList, "https://auth.test".toList,
    by simp [isBlank], by decide, by simp [isBlank], by simp [isBlank]⟩
  have hdistinct : ParameterText.Distinct [service, scope, realm] := by
    rw [ParameterText.Distinct]
    decide
  have hwrites : WritesParameters [service, scope, realm]
      (service.chars ++ (" ,\t ".toList ++ (scope.chars ++ (",".toList ++ realm.chars)))) :=
    .cons service (by simp [isBlank]) (.cons scope (by simp) (.last realm))
  have hread := ofHeader?_of_writes.1 "bEARER".toList _ _ (by decide) hdistinct hwrites
  exact hread.trans (by decide +kernel)

end Challenge

end ImageDiscovery
