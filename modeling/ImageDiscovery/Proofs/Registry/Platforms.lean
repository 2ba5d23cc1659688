import Mathlib.Order.Defs.Unbundled
import ImageDiscovery.Proofs.Registry.Contents
import ImageDiscovery.Proofs.Registry.PlatformText

/-!
# Platforms as texts and as wishes

As a wish a platform admits the platforms that agree with it, with any variant if it names none.
This orders the platforms: one without a variant stands below those with one. A wish without a
variant is the wider one. So in an index it finds an entry wherever the wish with the variant does,
and finds it no later.

## Main definitions

* `Platform.withoutVariant` — the wider wish.
* `ImageIndex.FindsAt` — the place of the entry that is found for a platform.

## Main results

* `Platform.admits_antisymm` — platforms that admit each other are the same.
* `ImageIndex.FindsAt.withoutVariant` — a wider wish finds an entry no later.
* `Platform.text_and_order` — platforms as texts and as wishes.
-/

namespace ImageDiscovery

open Text

namespace Platform

variable {p q : Platform}

/-! ### Platforms as wishes -/

/-- Platforms that admit each other are the same. -/
theorem admits_antisymm (hpq : p.admits q = true) (hqp : q.admits p = true) : p = q := by
  obtain ⟨hos, harch, hp⟩ := admits_iff.1 hpq
  obtain ⟨-, -, hq⟩ := admits_iff.1 hqp
  have hvariant : p.variant = q.variant := by
    rcases hp with hp | hp
    · rcases hq with hq | hq
      · rw [hp, hq]
      · exact hq
    · exact hp.symm
  cases p
  cases q
  rw [Platform.mk.injEq]
  exact ⟨hos, harch, hvariant⟩

theorem isPartialOrder_admits : IsPartialOrder Platform fun p q => p.admits q = true where
  refl := admits_refl
  trans _ _ _ := admits_trans
  antisymm _ _ := admits_antisymm

/-- The same platform with any variant. -/
def withoutVariant (p : Platform) : Platform := { p with variant := none }

theorem Meets.withoutVariant (h : q.Meets p) : q.Meets p.withoutVariant :=
  ⟨h.os, h.architecture, .inl rfl⟩

/-- A wish without a variant admits what the wish with the variant does. -/
theorem admits_withoutVariant (h : p.admits q = true) : p.withoutVariant.admits q = true :=
  admits_iff.2 (admits_iff.1 h).withoutVariant

end Platform

theorem Descriptor.Serves.withoutVariant {d : Descriptor} {wanted : Platform}
    (h : d.Serves wanted) : d.Serves wanted.withoutVariant := by
  obtain ⟨p, hp, hmeets⟩ := h
  exact ⟨p, hp, hmeets.withoutVariant⟩

namespace ImageIndex

/-- The entry that is found for a platform stands at the place `n`, and no entry before it
serves. -/
structure FindsAt (index : ImageIndex) (wanted : Platform) (n : ℕ) (entry : Descriptor) : Prop where
  find?_eq : index.find? wanted = some entry
  getElem?_eq : index.manifests[n]? = some entry
  first : ∀ d ∈ index.manifests.take n, ¬ d.Serves wanted

variable {index : ImageIndex} {wanted : Platform} {n : ℕ} {entry : Descriptor}

/-- What is found has its place. -/
theorem exists_findsAt (h : index.find? wanted = some entry) :
    ∃ n, index.FindsAt wanted n entry := by
  obtain ⟨-, before, after, hsplit, hbefore⟩ := find?_eq_some_iff.1 h
  refine ⟨before.length, h, ?_, ?_⟩
  · rw [hsplit, List.getElem?_append_right le_rfl, Nat.sub_self]
    rfl
  · rw [hsplit, List.take_left]
    exact hbefore

/-- A wider wish finds an entry no later. -/
theorem FindsAt.withoutVariant (h : index.FindsAt wanted n entry) :
    ∃ m ≤ n, ∃ other, index.FindsAt wanted.withoutVariant m other := by
  have hserves : entry.Serves wanted.withoutVariant :=
    (find?_eq_some_iff.1 h.find?_eq).1.withoutVariant
  cases hfind : index.find? wanted.withoutVariant with
  | none =>
    exact absurd hserves (find?_eq_none_iff.1 hfind entry (List.mem_of_getElem? h.getElem?_eq))
  | some other =>
    obtain ⟨m, hm⟩ := exists_findsAt hfind
    refine ⟨m, not_lt.1 fun hlt => ?_, other, hm⟩
    -- Otherwise the entry would stand before the first one that serves the wider wish.
    refine hm.first entry (List.mem_of_getElem? (i := n) ?_) hserves
    rw [List.getElem?_take_of_lt hlt, h.getElem?_eq]

end ImageIndex

/-- **Platforms as texts and as wishes.** A text is read exactly if, without the white space around
it, it is two or three parts between slashes, none of them empty; what is read is written as this
text and is read from it again. As wishes the platforms are ordered by what they admit. A wish
without its variant admits whatever the wish admits, and so finds an entry in each index in which
the wish finds one, at the same place or before it. -/
theorem Platform.text_and_order :
    (∀ s, (∃ p, ofString? s = some p) ↔ ∃ ps, IsWritten ps ∧ trim s.toList = join '/' ps) ∧
    (∀ s p, ofString? s = some p →
      p.text = String.ofList (trim s.toList) ∧ ofString? p.text = some p) ∧
    IsPartialOrder Platform (fun p q => p.admits q = true) ∧
    (∀ wanted p : Platform, wanted.admits p = true → wanted.withoutVariant.admits p = true) ∧
    ∀ (index : ImageIndex) (wanted : Platform) (entry : Descriptor),
      index.find? wanted = some entry → ∃ n, index.FindsAt wanted n entry ∧
        ∃ m ≤ n, ∃ other, index.FindsAt wanted.withoutVariant m other := by
  refine ⟨fun s => ⟨?_, ?_⟩, fun s p => text_eq_of_ofString?, isPartialOrder_admits,
    fun wanted p => admits_withoutVariant, fun index wanted entry h => ?_⟩
  · rintro ⟨p, hp⟩
    exact ⟨p.parts, ofString?_eq_some_iff.1 hp⟩
  · rintro ⟨ps, hps⟩
    obtain ⟨p, rfl⟩ := exists_parts_eq hps.1.length
    exact ⟨p, ofString?_eq_some_iff.2 hps⟩
  · obtain ⟨n, hn⟩ := ImageIndex.exists_findsAt h
    exact ⟨n, hn, hn.withoutVariant⟩

/-- The seventh variant is found behind an entry without a platform and one with another variant.
Any variant is found before it. -/
theorem Platform.text_and_order_seventh :
    let wanted : Platform := ⟨"linux", "arm", some "v7"⟩
    let entryFor (digest : String) (p : Option Platform) : Descriptor := ⟨"", digest, 0, p, .empty⟩
    let entry := entryFor "c" (some wanted)
    let index : ImageIndex :=
      ⟨none, [entryFor "a" none, entryFor "b" (some ⟨"linux", "arm", some "v6"⟩), entry], .empty⟩
    ofString? " linux/arm/v7" = some wanted ∧ wanted.text = "linux/arm/v7" ∧
      index.find? wanted = some entry ∧ ∃ n, index.FindsAt wanted n entry ∧
        ∃ m ≤ n, ∃ other, index.FindsAt wanted.withoutVariant m other := by
  intro wanted entryFor entry index
  obtain ⟨-, hread, -, -, hfind⟩ := Platform.text_and_order
  have hwanted : ofString? " linux/arm/v7" = some wanted := by decide +kernel
  have hentry : index.find? wanted = some entry := by decide +kernel
  refine ⟨hwanted, ?_, hentry, hfind index wanted entry hentry⟩
  rw [(hread _ _ hwanted).1]
  decide +kernel

end ImageDiscovery
