import ImageDiscovery.Registry.Link
import ImageDiscovery.Proofs.Text.Edges
import ImageDiscovery.Proofs.Text.Parts

/-!
# The link to the next page

A header of links writes each link as its target between angle brackets and the relation in which
the target stands to the page, with commas between the links. Commas and semicolons may also stand
within a target. The header is cut at all of its commas, and a link at its first semicolon, before
the brackets are looked at. So the first link to the next page is found among the others, whatever
these are; but of its target only that is read which stands behind its last comma and before the
first semicolon after it.

## Main definitions

* `LinkText` — a link as it is written, and `LinkText.reading`, what is read of its target.
* `Link.headerText` — a header of links.
* `Link.pageFrom` — the page at a target that is read from a page.

## Main results

* `Link.findSome?_split_of_count` — a text with less than two quotes holds no link to the next page.
* `Link.findSome?_split_link` — what is found in one link.
* `LinkText.reading_eq_iff` — the targets that are read as they are written.
* `Link.nextTarget?_eq_iff` — which headers are read as they are written, and what else is read.
-/

namespace ImageDiscovery

open Net Text

/-! ### Written links -/

/-- The characters of targets. As anywhere in a URI, there are no angle brackets, no quotes and no
white space. -/
def IsTargetChar (c : Char) : Prop := c ≠ '<' ∧ c ≠ '>' ∧ c ≠ '"' ∧ isBlank c = false

instance : DecidablePred IsTargetChar := fun _ => inferInstanceAs (Decidable (_ ∧ _))

/-- A link as it is written. -/
structure LinkText where
  target : List Char
  relation : List Char
  isTargetChar : ∀ c ∈ target, IsTargetChar c
  quote_not_mem : '"' ∉ relation

namespace LinkText

variable (l : LinkText)

/-- The parameter that names a relation. -/
def parameter (relation : List Char) : List Char := "rel=".toList ++ '"' :: (relation ++ ['"'])

/-- What stands behind a target, from the closing bracket on. -/
def ending (relation : List Char) : List Char := '>' :: ';' :: ' ' :: parameter relation

/-- The characters of a link. -/
def chars : List Char := '<' :: (l.target ++ ending l.relation)

/-- The link leads to the next page. -/
def isNext : Bool := l.relation == "next".toList

/-- What is read of the target: what stands behind its last comma, up to the next semicolon. -/
def reading : List Char := (l.target.rtakeWhile (· != ',')).takeWhile (· != ';')

/-- A target is read as it is written if there is neither a comma nor a semicolon in it. -/
theorem reading_eq_iff : l.reading = l.target ↔ ',' ∉ l.target ∧ ';' ∉ l.target := by
  constructor
  · intro h
    have hsuffix : l.target.rtakeWhile (· != ',') <:+ l.target := List.rtakeWhile_suffix ..
    have hprefix : l.reading <+: l.target.rtakeWhile (· != ',') := List.takeWhile_prefix _
    have hlength : l.target.length ≤ (l.target.rtakeWhile (· != ',')).length :=
      h ▸ hprefix.length_le
    have hlast : l.target.rtakeWhile (· != ',') = l.target := hsuffix.eq_of_length_le hlength
    have hfirst : l.target.takeWhile (· != ';') = l.target := by
      rwa [reading, hlast] at h
    refine ⟨fun hmem => ?_, fun hmem => ?_⟩
    · simpa using List.rtakeWhile_eq_self_iff.1 hlast ',' hmem
    · simpa using List.takeWhile_eq_self_iff.1 hfirst ';' hmem
  · rintro ⟨hcomma, hsemicolon⟩
    rw [reading, rtakeWhile_bne_of_not_mem hcomma, takeWhile_bne_of_not_mem hsemicolon]

end LinkText

namespace Link

/-- The characters of a header of links. -/
def headerChars : List LinkText → List Char
  | [] => []
  | [l] => l.chars
  | l :: k :: ls => l.chars ++ ',' :: ' ' :: headerChars (k :: ls)

/-- A header of links. -/
def headerText (ls : List LinkText) : String := String.ofList (headerChars ls)

/-! ### Quotes -/

variable {s t a b : List Char}

theorem count_of_blank (h : ∀ c ∈ s, isBlank c = true) : s.count '"' = 0 :=
  List.count_eq_zero.2 fun hmem => absurd (h '"' hmem) (by decide)

/-- A link to the next page is found at its relation between two quotes. -/
theorem targetOfNext?_of_count (h : s.count '"' < 2) : targetOfNext? s = none := by
  cases hcut : cut ';' s with
  | none => rw [targetOfNext?, hcut]; rfl
  | some cutTarget =>
    obtain ⟨a, b⟩ := cutTarget
    have hnot : ¬ contains "rel=\"next\"".toList b = true := by
      intro hcontains
      have htwo : 2 ≤ b.count '"' := (contains_iff_isInfix.1 hcontains).sublist.count_le '"'
      rw [(cut_eq_some_iff.1 hcut).2, List.count_append, List.count_cons_of_ne (by decide)] at h
      omega
    rw [targetOfNext?, hcut]
    exact if_neg hnot

/-- A text with less than two quotes holds no link to the next page. -/
theorem findSome?_split_of_count (h : s.count '"' < 2) :
    (split ',' s).findSome? targetOfNext? = none :=
  List.findSome?_eq_none_iff.2 fun _ hp => targetOfNext?_of_count
    (((infix_of_mem_split hp).sublist.count_le '"').trans_lt h)

/-! ### One link -/

variable {relation : List Char}

theorem count_parameter (h : '"' ∉ relation) : (LinkText.parameter relation).count '"' = 2 := by
  rw [LinkText.parameter, List.count_append, List.count_cons_self, List.count_append,
    List.count_eq_zero.2 h]
  decide

/-- The relation to the next page is found where it is named and nowhere else. -/
theorem next_infix_iff (hs : '"' ∉ s) (hr : '"' ∉ relation) :
    "rel=\"next\"".toList <:+: s ++ LinkText.parameter relation ↔ relation = "next".toList := by
  constructor
  · rintro ⟨a, b, hab⟩
    have hcount := congrArg (List.count '"') hab
    rw [List.count_append, List.count_append, List.count_append, count_parameter hr,
      List.count_eq_zero.2 hs] at hcount
    have hnext : "rel=\"next\"".toList.count '"' = 2 := by decide
    have hrel : '"' ∉ "rel=".toList := by decide
    have ha : '"' ∉ a := List.count_eq_zero.1 (by omega)
    -- There are only two quotes, so that the texts agree up to each of them.
    have hab' : (a ++ "rel=".toList) ++ '"' :: ("next".toList ++ '"' :: b) =
        (s ++ "rel=".toList) ++ '"' :: (relation ++ ['"']) := by
      simpa [LinkText.parameter] using hab
    have hrest := (eq_of_append_cons_eq (List.not_mem_append ha hrel)
      (List.not_mem_append hs hrel) hab').2
    exact (eq_of_append_cons_eq (by decide) hr hrest).1.symm
  · rintro rfl
    exact (List.suffix_append s _).isInfix

/-- What stands before what is read of a target: nothing, or the opening bracket and white space in
front of it. -/
def IsLead (s : List Char) : Prop :=
  s = [] ∨ ∃ pad, (∀ c ∈ pad, isBlank c = true) ∧ s = pad ++ ['<']

theorem IsLead.of_mem {c : Char} (h : IsLead s) (hc : c ∈ s) : isBlank c = true ∨ c = '<' := by
  rcases h with rfl | ⟨pad, hpad, rfl⟩
  · cases hc
  · exact (List.mem_append.1 hc).imp (hpad c) List.mem_singleton.1

/-- The brackets are taken off a target, as far as they are there. -/
theorem bareTarget_append {lead m close : List Char} (hlead : IsLead lead)
    (hm : ∀ c ∈ m, IsTargetChar c) (hclose : close = [] ∨ close = ['>']) :
    bareTarget (lead ++ (m ++ close)) = m := by
  have hvisible : ∀ c ∈ m ++ close, isBlank c = false ∧ c ≠ '<' := by
    intro c hc
    rcases List.mem_append.1 hc with hc | hc
    · exact ⟨(hm c hc).2.2.2, (hm c hc).1⟩
    · rcases hclose with rfl | rfl
      · cases hc
      · rw [List.mem_singleton.1 hc]
        decide
  have htrim : trim (m ++ close) = m ++ close := trim_of_forall fun c hc => (hvisible c hc).1
  have hopen : (trim (lead ++ (m ++ close))).dropWhile (· == '<') = m ++ close := by
    have hdrop : (m ++ close).dropWhile (· == '<') = m ++ close := dropWhile_eq_self fun c hc =>
      beq_eq_false_iff_ne.2 (hvisible c (List.mem_of_mem_head? hc)).2
    rcases hlead with rfl | ⟨pad, hpad, rfl⟩
    · rw [List.nil_append, htrim, hdrop]
    · have htrim' : trim ('<' :: (m ++ close)) = '<' :: (m ++ close) :=
        trim_of_forall (List.forall_mem_cons.2 ⟨by decide, fun c hc => (hvisible c hc).1⟩)
      rw [List.append_assoc, trim_blank_append hpad, List.singleton_append, htrim']
      exact hdrop
  have hend : (m ++ close).rdropWhile (· == '>') = m := by
    have hnone : m.rdropWhile (· == '>') = m := List.rdropWhile_eq_self_iff.2 fun hne hlast =>
      (hm _ (List.getLast_mem hne)).2.1 (beq_iff_eq.1 hlast)
    rcases hclose with rfl | rfl
    · rw [List.append_nil, hnone]
    · rw [List.rdropWhile_concat_pos _ _ _ rfl, hnone]
  rw [bareTarget, hopen]
  exact hend

/-- A link is cut at the first semicolon of its target, or else at the one behind the bracket. -/
theorem exists_cut_link {lead m : List Char} (hlead : IsLead lead) (hm : '"' ∉ m)
    (relation : List Char) :
    ∃ close before, (close = [] ∨ close = ['>']) ∧ '"' ∉ before ∧
      cut ';' (lead ++ (m ++ LinkText.ending relation)) =
        some (lead ++ (m.takeWhile (· != ';') ++ close),
          before ++ LinkText.parameter relation) := by
  have hlead' : ';' ∉ lead := fun hmem => absurd (hlead.of_mem hmem) (by decide)
  cases hcut : cut ';' m with
  | none =>
    have hmem := cut_eq_none_iff.1 hcut
    rw [takeWhile_bne_of_not_mem hmem]
    refine ⟨['>'], [' '], .inr rfl, by decide, cut_eq_some_iff.2 ⟨?_, ?_⟩⟩
    · exact List.not_mem_append hlead' (List.not_mem_append hmem (by decide))
    · rw [LinkText.ending]
      simp
  | some cutTarget =>
    obtain ⟨w, w'⟩ := cutTarget
    obtain ⟨hmem, rfl⟩ := cut_eq_some_iff.1 hcut
    rw [takeWhile_append_cons rfl, takeWhile_bne_of_not_mem hmem]
    refine ⟨[], w' ++ ">; ".toList, .inl rfl, ?_, cut_eq_some_iff.2 ⟨?_, ?_⟩⟩
    · refine List.not_mem_append (fun hquote => hm ?_) (by decide)
      exact List.mem_append_right _ (List.mem_cons_of_mem _ hquote)
    · rw [List.append_nil]
      exact List.not_mem_append hlead' hmem
    · rw [LinkText.ending]
      simp

/-- What is found in one link, without the commas of its target and what stands before them. -/
theorem targetOfNext?_append {lead m : List Char} (hlead : IsLead lead)
    (hm : ∀ c ∈ m, IsTargetChar c) (hr : '"' ∉ relation) :
    targetOfNext? (lead ++ (m ++ LinkText.ending relation)) =
      if relation = "next".toList then some (m.takeWhile (· != ';')) else none := by
  obtain ⟨close, before, hclose, hbefore, hcut⟩ :=
    exists_cut_link hlead (fun hmem => (hm '"' hmem).2.2.1 rfl) relation
  have hcontains : contains "rel=\"next\"".toList (before ++ LinkText.parameter relation) = true ↔
      relation = "next".toList := contains_iff_isInfix.trans (next_infix_iff hbefore hr)
  have hbare := bareTarget_append hlead
    (fun c hc => hm c (List.takeWhile_subset _ hc)) hclose (m := m.takeWhile (· != ';'))
  rw [targetOfNext?, hcut, Option.bind_eq_bind, Option.bind_some]
  dsimp only
  rw [hbare]
  exact if_congr hcontains rfl rfl

/-- What is found in one link, whatever commas its relation has. -/
theorem findSome?_split_append {lead m : List Char} (hlead : IsLead lead)
    (hm : ∀ c ∈ m, IsTargetChar c) (hcomma : ',' ∉ m) (hr : '"' ∉ relation) :
    (split ',' (lead ++ (m ++ LinkText.ending relation))).findSome? targetOfNext? =
      if relation = "next".toList then some (m.takeWhile (· != ';')) else none := by
  have hlead' : ',' ∉ lead := fun hmem => absurd (hlead.of_mem hmem) (by decide)
  by_cases hcomma' : ',' ∈ relation
  · -- The two quotes fall into two different parts.
    obtain ⟨r, r', rfl⟩ := List.append_of_mem hcomma'
    have hquotes : lead.count '"' = 0 ∧ m.count '"' = 0 ∧ (r ++ ',' :: r').count '"' = 0 :=
      ⟨List.count_eq_zero.2 fun hmem => absurd (hlead.of_mem hmem) (by decide),
        List.count_eq_zero.2 fun hmem => (hm '"' hmem).2.2.1 rfl, List.count_eq_zero.2 hr⟩
    have hsplit : lead ++ (m ++ LinkText.ending (r ++ ',' :: r')) =
        (lead ++ (m ++ (">; rel=\"".toList ++ r))) ++ ',' :: (r' ++ ['"']) := by
      simp [LinkText.ending, LinkText.parameter]
    rw [List.count_append, List.count_cons_of_ne (by decide)] at hquotes
    have hnext : r ++ ',' :: r' ≠ "next".toList := fun h =>
      absurd (h ▸ List.mem_append_right r List.mem_cons_self : ',' ∈ "next".toList) (by decide)
    rw [hsplit, split_append_cons, List.findSome?_append, findSome?_split_of_count,
      findSome?_split_of_count, if_neg hnext]
    · rfl
    · rw [List.count_append]
      simp
      omega
    · rw [List.count_append, List.count_append, List.count_append]
      simp
      omega
  · have hmem : ',' ∉ lead ++ (m ++ LinkText.ending relation) := by
      refine List.not_mem_append hlead' (List.not_mem_append hcomma ?_)
      simp [LinkText.ending, LinkText.parameter, hcomma']
    rw [split_of_not_mem hmem, List.findSome?_singleton, targetOfNext?_append hlead hm hr]

/-- What is found in one link: what is read of its target, if it leads to the next page. -/
theorem findSome?_split_link (l : LinkText) {pad : List Char} (hpad : ∀ c ∈ pad, isBlank c = true) :
    (split ',' (pad ++ l.chars)).findSome? targetOfNext? =
      if l.isNext then some l.reading else none := by
  have hrest (lead m : List Char) (hlead : IsLead lead) (hm : ∀ c ∈ m, IsTargetChar c)
      (hcomma : ',' ∉ m) (hreading : l.reading = m.takeWhile (· != ';')) :
      (split ',' (lead ++ (m ++ LinkText.ending l.relation))).findSome? targetOfNext? =
        if l.isNext then some l.reading else none := by
    rw [findSome?_split_append hlead hm hcomma l.quote_not_mem, hreading]
    exact if_congr beq_iff_eq.symm rfl rfl
  by_cases hcomma : ',' ∈ l.target
  · -- What stands before the last comma of the target has no quotes.
    obtain ⟨a, ha⟩ := exists_eq_append_rtakeWhile hcomma
    have hm : ∀ c ∈ l.target.rtakeWhile (· != ','), IsTargetChar c := fun c hc =>
      l.isTargetChar c ((List.rtakeWhile_suffix _ _).subset hc)
    have hchars : l.chars = '<' :: ((a ++ ',' :: l.target.rtakeWhile (· != ',')) ++
        LinkText.ending l.relation) :=
      congrArg (fun t => '<' :: (t ++ LinkText.ending l.relation)) ha
    have hsplit : pad ++ l.chars = (pad ++ '<' :: a) ++
        ',' :: (l.target.rtakeWhile (· != ',') ++ LinkText.ending l.relation) := by
      simp [hchars]
    have hquote : '"' ∉ a := fun hmem =>
      (l.isTargetChar '"' (ha ▸ List.mem_append_left _ hmem)).2.2.1 rfl
    have hquotes : (pad ++ '<' :: a).count '"' < 2 := by
      rw [List.count_append, count_of_blank hpad, List.count_cons_of_ne (by decide),
        List.count_eq_zero.2 hquote]
      decide
    rw [hsplit, split_append_cons, List.findSome?_append, findSome?_split_of_count hquotes,
      Option.none_or]
    exact hrest [] _ (.inl rfl) hm (fun hmem => by simpa using List.mem_rtakeWhile_imp hmem) rfl
  · have hreading : l.reading = l.target.takeWhile (· != ';') := by
      rw [LinkText.reading, rtakeWhile_bne_of_not_mem hcomma]
    have hchars : pad ++ l.chars = (pad ++ ['<']) ++ (l.target ++ LinkText.ending l.relation) := by
      rw [LinkText.chars, List.append_assoc]
      rfl
    rw [hchars]
    exact hrest _ _ (.inr ⟨pad, hpad, rfl⟩) l.isTargetChar hcomma hreading

/-! ### Headers of links -/

/-- In a header the first link to the next page is found. -/
theorem findSome?_split_header (ls : List LinkText) {pad : List Char}
    (hpad : ∀ c ∈ pad, isBlank c = true) :
    (split ',' (pad ++ headerChars ls)).findSome? targetOfNext? =
      (ls.find? (·.isNext)).map (·.reading) := by
  induction ls using headerChars.induct generalizing pad with
  | case1 =>
    rw [headerChars, List.append_nil]
    exact findSome?_split_of_count ((count_of_blank hpad).trans_lt (by decide))
  | case2 l =>
    rw [headerChars, findSome?_split_link l hpad, List.find?_singleton]
    split <;> rfl
  | case3 l k ls ih =>
    rw [headerChars, ← List.append_assoc, split_append_cons, List.findSome?_append,
      findSome?_split_link l hpad, ← List.singleton_append, ih (by simp [isBlank])]
    cases hl : l.isNext with
    | true => rw [List.find?_cons_of_pos hl]; rfl
    | false => rw [List.find?_cons_of_neg (Bool.eq_false_iff.1 hl)]; rfl

/-- The page at a target that is read from a page; none where there is no target. -/
def pageFrom (current : String) : Option (List Char) → Except RegistryError (Option String)
  | none => .ok none
  | some target =>
    match Url.ofString? current with
    | none => .error (.invalidUrl current)
    | some base =>
      match base.resolve? (String.ofList target) with
      | none => .error (.invalidUrl (String.ofList target))
      | some next => .ok (some next.text)

/-- **Which headers of links are read as they are written.** Of a header the first link to the next
page is found. Its target is read as it is written if and only if it has no commas and no
semicolons. The next page is the one at what is read of the target, from the page on which the link
stands. -/
theorem nextTarget?_eq_iff (ls : List LinkText) (current : String) :
    let first := ls.find? (·.isNext)
    (nextTarget? (headerText ls).toList = first.map (·.target) ↔
      ∀ l ∈ first, ',' ∉ l.target ∧ ';' ∉ l.target) ∧
    nextPage current (some (headerText ls)) = pageFrom current (first.map (·.reading)) := by
  intro first
  have hread : nextTarget? (headerText ls).toList = first.map (·.reading) := by
    rw [nextTarget?, headerText, String.toList_ofList]
    exact findSome?_split_header ls (List.forall_mem_nil _)
  have hpage (header : String) :
      nextPage current (some header) = pageFrom current (nextTarget? header.toList) := by
    rw [nextPage, Option.bind_some]
    cases nextTarget? header.toList <;> rfl
  refine ⟨?_, by rw [hpage, hread]⟩
  rw [hread]
  cases first with
  | none => simp
  | some l => simpa using l.reading_eq_iff

/-- Two targets that are not read as they are written: of the first only what stands behind the
comma, and of the second only what stands before the semicolon. Both relations are to the next page,
and both targets are resolved. -/
theorem exists_next_misread : ∃ (l k : LinkText) (current : String) (base : Url),
    Url.ofString? current = some base ∧ l.isNext = true ∧ k.isNext = true ∧
    (base.resolve? (String.ofList l.target)).map Url.text =
      some "https://reg.test/v2/web/tags/list?last=a,b" ∧
    nextPage current (some (headerText [l])) = .ok (some "https://reg.test/v2/web/tags/b") ∧
    (base.resolve? (String.ofList k.target)).map Url.text =
      some "https://reg.test/v2/web/tags/list;v=2?last=a" ∧
    nextPage current (some (headerText [k])) = .ok (some "https://reg.test/v2/web/tags/list") := by
  refine ⟨⟨"/v2/web/tags/list?last=a,b".toList, "next".toList,
      by simp [IsTargetChar, isBlank], by decide⟩,
    ⟨"/v2/web/tags/list;v=2?last=a".toList, "next".toList,
      by simp [IsTargetChar, isBlank], by decide⟩,
    "https://reg.test/v2/web/tags/list", ⟨"https", "", "", some (.domain "reg.test"), none,
      .segments ["v2", "web", "tags", "list"], none, none⟩, ?_⟩
  decide +kernel

end Link

end ImageDiscovery
