import ImageDiscovery.Time.Calendar

/-!
# Timestamps

A timestamp is a number of seconds from the beginning of 1970 and a number of nanoseconds, which
goes beyond a second within a leap second. It is written in UTC, with as many digits of the fraction
in threes as are needed.

## Main definitions

* `Time.Timestamp` — a point in time.
* `Time.Timestamp.compare` — the order of time.
* `Time.Timestamp.text` — a timestamp as it is written.
-/

namespace ImageDiscovery.Time

/-- A point in time, to the nanosecond. -/
structure Timestamp where
  /-- The seconds from the beginning of 1970. -/
  seconds : Int
  /-- The nanoseconds after that; a thousand million or more lie within a leap second. -/
  nanos : Nat
  deriving DecidableEq, Repr, Inhabited

namespace Timestamp

/-- The earlier one comes first. -/
protected def compare (a b : Timestamp) : Ordering :=
  (Ord.compare a.seconds b.seconds).then (Ord.compare a.nanos b.nanos)

instance : Ord Timestamp := ⟨Timestamp.compare⟩

/-- The number of nanoseconds of a second. -/
def nanosPerSecond : Nat := 1000000000

/-- A number with at least `width` digits. -/
def padded (width n : Nat) : String :=
  let ds := Nat.toDigits 10 n
  String.ofList (List.replicate (width - ds.length) '0' ++ ds)

/-- A year: four digits, and a sign before a year that is negative or has more digits. -/
def yearText (y : Int) : String :=
  if y < 0 then "-" ++ padded 4 y.natAbs
  else if 9999 < y then "+" ++ padded 4 y.natAbs
  else padded 4 y.natAbs

/-- The fraction of a second: none, or three, six or nine digits after a point. -/
def fractionText (nanos : Nat) : String :=
  if nanos == 0 then ""
  else if nanos % 1000000 == 0 then "." ++ padded 3 (nanos / 1000000)
  else if nanos % 1000 == 0 then "." ++ padded 6 (nanos / 1000)
  else "." ++ padded 9 nanos

/-- A timestamp in UTC, with the given name of the zone. -/
def text (zone : String) (t : Timestamp) : String :=
  let date := Date.ofDays (t.seconds / 86400)
  let second := (t.seconds % 86400).toNat
  let leap := if nanosPerSecond ≤ t.nanos then 1 else 0
  yearText date.year ++ "-" ++ padded 2 date.month ++ "-" ++ padded 2 date.day ++ "T" ++
    padded 2 (second / 3600) ++ ":" ++ padded 2 (second / 60 % 60) ++ ":" ++
    padded 2 (second % 60 + leap) ++ fractionText (t.nanos - leap * nanosPerSecond) ++ zone

/-- A timestamp as documents write it. -/
def documentText (t : Timestamp) : String := t.text "Z"

end Timestamp

end ImageDiscovery.Time
