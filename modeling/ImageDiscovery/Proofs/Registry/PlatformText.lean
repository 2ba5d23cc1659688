import ImageDiscovery.Proofs.Text.Edges
import ImageDiscovery.Proofs.Text.Parts
import ImageDiscovery.Registry.Platform

/-!
# Platforms as texts

A platform is written as its parts with slashes between them. A text is read exactly if it is
written so, whatever white space stands around it, and what is read is written as the text without
this white space.

## Main definitions

* `Platform.parts`, `Platform.IsWritten` — the parts between slashes.

## Main results

* `Platform.ofString?_eq_some_iff` — which texts are read, and as what.
* `Platform.text_eq_of_ofString?` — what is read is written as it was.
-/

namespace ImageDiscovery

open Text

namespace Platform

/-- The parts of a platform, the variant last if there is one. -/
def parts (p : Platform) : List (List Char) :=
  p.os.toList :: p.architecture.toList :: (p.variant.map String.toList).toList

/-- Two or three parts may be written with slashes between them: none of them is empty, and none has
a slash of its own. -/
structure IsWritten (ps : List (List Char)) : Prop where
  length : ps.length = 2 ∨ ps.length = 3
  ne_nil : ∀ s ∈ ps, s ≠ []
  slash_not_mem : ∀ s ∈ ps, '/' ∉ s

variable {s : String} {p : Platform} {ps : List (List Char)}

theorem ofParts?_eq_some_iff : ofParts? ps = some p ↔ p.parts = ps := by
  unfold ofParts?
  constructor
  · intro h
    split at h
    · obtain rfl := Option.some.inj h
      simp [parts]
    · obtain rfl := Option.some.inj h
      simp [parts]
    · cases h
  · rintro rfl
    obtain ⟨os, arch, variant⟩ := p
    cases variant <;> simp [parts]

theorem length_parts (p : Platform) : p.parts.length = 2 ∨ p.parts.length = 3 := by
  obtain ⟨os, arch, variant⟩ := p
  cases variant
  · exact .inl rfl
  · exact .inr rfl

/-- From two or three parts a platform is read. -/
theorem exists_parts_eq (h : ps.length = 2 ∨ ps.length = 3) : ∃ p : Platform, p.parts = ps := by
  rcases h with h | h
  · obtain ⟨os, arch, rfl⟩ := List.length_eq_two.1 h
    exact ⟨⟨String.ofList os, String.ofList arch, none⟩, by simp [parts]⟩
  · obtain ⟨os, arch, variant, rfl⟩ := List.length_eq_three.1 h
    exact ⟨⟨String.ofList os, String.ofList arch, some (String.ofList variant)⟩, by simp [parts]⟩

theorem toList_text (p : Platform) : p.text.toList = join '/' p.parts := by
  obtain ⟨os, arch, variant⟩ := p
  cases variant <;> simp [text, parts, join]

/-- A text is read as the platform whose parts are written in it. -/
theorem ofString?_eq_some_iff :
    ofString? s = some p ↔ IsWritten p.parts ∧ trim s.toList = join '/' p.parts := by
  have hread : ofString? s = some p ↔
      (∀ t ∈ split '/' (trim s.toList), t ≠ []) ∧ p.parts = split '/' (trim s.toList) := by
    unfold ofString? ofChars?
    simp only [Option.ite_none_left_eq_some, ofParts?_eq_some_iff, Bool.not_eq_true,
      List.any_eq_false, List.isEmpty_eq_false_iff]
  rw [hread]
  constructor
  · rintro ⟨hne, hparts⟩
    refine ⟨⟨p.length_parts, hparts ▸ hne, hparts ▸ fun t => sep_not_mem_of_mem_split⟩, ?_⟩
    rw [hparts, join_split]
  · rintro ⟨hwritten, htrim⟩
    have hparts : split '/' (trim s.toList) = p.parts := by
      rw [htrim]
      exact split_join (List.cons_ne_nil _ _) hwritten.slash_not_mem
    exact ⟨hparts ▸ hwritten.ne_nil, hparts.symm⟩

/-- What is read is written as the text without the white space around it, and is read from that. -/
theorem text_eq_of_ofString? (h : ofString? s = some p) :
    p.text = String.ofList (trim s.toList) ∧ ofString? p.text = some p := by
  obtain ⟨hwritten, htrim⟩ := ofString?_eq_some_iff.1 h
  have htext : p.text.toList = trim s.toList := p.toList_text.trans htrim.symm
  refine ⟨by rw [← htext, String.ofList_toList], ofString?_eq_some_iff.2 ⟨hwritten, ?_⟩⟩
  rw [htext, trim_trim, htrim]

end Platform

end ImageDiscovery
