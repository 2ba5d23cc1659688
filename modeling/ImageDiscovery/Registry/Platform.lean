import ImageDiscovery.Text.Blank
import ImageDiscovery.Text.Split
import ImageDiscovery.Document.Reading

/-!
# Platforms

A platform is an operating system with an architecture, which may be narrowed to a variant. It is
written as `os/arch` or `os/arch/variant`.

## Main definitions

* `Platform` — a platform.
* `Platform.ofString?`, `Platform.text` — reading and writing a platform.
* `Platform.admits` — whether an image of a platform serves where another one is wanted.

## Main results

* `Platform.admits_refl`, `Platform.admits_trans` — the relation is a preorder.
-/

namespace ImageDiscovery

open Text Document

/-- An operating system with an architecture, and perhaps a variant of it. -/
structure Platform where
  os : String
  architecture : String
  variant : Option String
  deriving DecidableEq, Repr

namespace Platform

/-- The platform that two or three parts name. -/
def ofParts? : List (List Char) → Option Platform
  | [os, arch] => some ⟨String.ofList os, String.ofList arch, none⟩
  | [os, arch, variant] =>
    some ⟨String.ofList os, String.ofList arch, some (String.ofList variant)⟩
  | _ => none

/-- The platform that a text names: two or three parts, none of them empty, between slashes. -/
def ofChars? (s : List Char) : Option Platform :=
  let parts := split '/' (trim s)
  if parts.any (·.isEmpty) then none else ofParts? parts

/-- The platform that a text names. -/
def ofString? (s : String) : Option Platform := ofChars? s.toList

/-- The parts of a platform between slashes. -/
def text (p : Platform) : String :=
  match p.variant with
  | some v => p.os ++ "/" ++ p.architecture ++ "/" ++ v
  | none => p.os ++ "/" ++ p.architecture

/-- An image of the platform `p` serves where `wanted` is wanted; a variant counts only where one
is wanted. -/
def admits (wanted p : Platform) : Bool :=
  wanted.os == p.os && wanted.architecture == p.architecture &&
    (wanted.variant.isNone || p.variant == wanted.variant)

theorem admits_refl (p : Platform) : p.admits p = true := by simp [admits]

theorem admits_trans {p q r : Platform} (hpq : p.admits q = true) (hqr : q.admits r = true) :
    p.admits r = true := by
  simp only [admits, Bool.and_eq_true, Bool.or_eq_true, beq_iff_eq, Option.isNone_iff_eq_none] at *
  obtain ⟨⟨h₁, h₂⟩, h₃⟩ := hpq
  obtain ⟨⟨h₄, h₅⟩, h₆⟩ := hqr
  refine ⟨⟨h₁.trans h₄, h₂.trans h₅⟩, ?_⟩
  rcases h₃ with h₃ | h₃
  · exact .inl h₃
  · rcases h₆ with h₆ | h₆
    · exact .inl (h₃ ▸ h₆)
    · exact .inr (h₆.trans h₃)

/-! ### Documents -/

/-- The platform that a document writes. -/
def read (n : Node) : Option Platform := do
  let f ← n.record ["os", "architecture", "variant"]
  return {
    os := ← f.required "os" Node.readText
    architecture := ← f.required "architecture" Node.readText
    variant := ← f.optional "variant" Node.readText }

/-- The document of a platform. -/
def toNode (p : Platform) : Node :=
  .mapping ([("os", .text p.os), ("architecture", .text p.architecture)] ++
    Node.field? "variant" (p.variant.map .text))

end Platform

end ImageDiscovery
