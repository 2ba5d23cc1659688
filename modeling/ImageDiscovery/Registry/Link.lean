import ImageDiscovery.Net.Url.Reader
import ImageDiscovery.Registry.Error
import ImageDiscovery.Text.Blank

/-!
# Links between pages

A page of tags names the page after it in a header of links, written as `<target>; rel="next"`.
Links are separated by commas. The target is read from the page on which it stands.

## Main definitions

* `Link.nextTarget?` — the target of the link to the next page.
* `Link.nextPage` — the URL of the next page.
-/

namespace ImageDiscovery.Link

open Net Text

/-- The target of a link without the angle brackets around it. -/
def bareTarget (s : List Char) : List Char :=
  (((trim s).dropWhile (· == '<')).reverse.dropWhile (· == '>')).reverse

/-- The target of one link, if it leads to the next page. -/
def targetOfNext? (entry : List Char) : Option (List Char) := do
  let (target, parameters) ← cut ';' entry
  if contains "rel=\"next\"".toList parameters then some (bareTarget target) else none

/-- The target of the first link to the next page. -/
def nextTarget? (header : List Char) : Option (List Char) :=
  (split ',' header).findSome? targetOfNext?

/-- The URL of the page after the one at `current`, whose header of links is given. -/
def nextPage (current : String) (header : Option String) : Except RegistryError (Option String) :=
  match header.bind fun h => nextTarget? h.toList with
  | none => .ok none
  | some target =>
    match Url.ofString? current with
    | none => .error (.invalidUrl current)
    | some base =>
      match base.resolve? (String.ofList target) with
      | none => .error (.invalidUrl (String.ofList target))
      | some next => .ok (some next.text)

end ImageDiscovery.Link
