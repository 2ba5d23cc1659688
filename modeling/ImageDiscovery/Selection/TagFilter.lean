import ImageDiscovery.Pattern.Engine
import ImageDiscovery.Registry.Error

/-!
# Filters of tags

A filter lets a tag pass unless it is listed as ignored; where there is a pattern, the tag has to
match it too.

## Main definitions

* `TagFilter` — a filter.
* `TagFilter.make` — the filter of a pattern and a list of ignored tags.
* `TagFilter.passes` — whether a tag passes.
-/

namespace ImageDiscovery

variable [PatternEngine]

/-- A filter of tags. -/
structure TagFilter where
  allow : Option PatternEngine.Compiled
  ignore : List String

namespace TagFilter

/-- The filter of a pattern, where an empty one is none, and a list of ignored tags. -/
def make (allow : Option String) (ignore : List String) : Except RegistryError TagFilter :=
  match allow.filter (!·.isEmpty) with
  | none => .ok ⟨none, ignore⟩
  | some text =>
    match PatternEngine.compile? text with
    | some p => .ok ⟨some p, ignore⟩
    | none => .error (.invalidTagPattern text)

/-- The tag is not ignored, and matches the pattern if there is one. -/
def passes (f : TagFilter) (tag : String) : Bool :=
  !f.ignore.contains tag && f.allow.all (PatternEngine.occursIn · tag)

end TagFilter

end ImageDiscovery
