/-!
# Engines for patterns

Which texts are patterns, and in which texts a pattern occurs, is up to an engine. Whatever uses
patterns takes the engine that is at hand, and knows no more about it than that it compiles a
pattern once and searches texts for it as often as is needed.

## Main definitions

* `PatternEngine` — compiles patterns and searches texts for them.
-/

namespace ImageDiscovery

/-- What compiles patterns and searches texts for them. -/
class PatternEngine where
  /-- A pattern that is ready to be searched for. -/
  Compiled : Type
  /-- The pattern that a text writes, if it writes one. -/
  compile? : String → Option Compiled
  /-- The pattern occurs somewhere in a text. -/
  occursIn : Compiled → String → Bool

end ImageDiscovery
