/-!
Instants of universal time between the years -262143 and 262142, with a resolution of one
nanosecond. A leap second continues the last second of a minute, so that its sub-second part runs
from one to two thousand million nanoseconds.
-/

namespace CensusNode

/-- An instant: whole seconds since 1970-01-01T00:00:00Z and nanoseconds within the second. -/
structure Instant where
  seconds : Int
  nanos : Nat
  earliest_le : -8334601228800 ≤ seconds
  le_latest : seconds ≤ 8210266876799
  nanos_lt : nanos < 2000000000
  leap_second : 1000000000 ≤ nanos → seconds % 60 = 59
deriving DecidableEq

namespace Instant

def of? (seconds : Int) (nanos : Nat) : Option Instant :=
  if inRange : (-8334601228800 ≤ seconds ∧ seconds ≤ 8210266876799) ∧
      (nanos < 2000000000 ∧ (1000000000 ≤ nanos → seconds % 60 = 59)) then
    some ⟨seconds, nanos, inRange.1.1, inRange.1.2, inRange.2.1, inRange.2.2⟩
  else none

theorem of_eq_some (instant : Instant) : of? instant.seconds instant.nanos = some instant := by
  have inRange : (-8334601228800 ≤ instant.seconds ∧ instant.seconds ≤ 8210266876799) ∧
      (instant.nanos < 2000000000 ∧ (1000000000 ≤ instant.nanos → instant.seconds % 60 = 59)) :=
    ⟨⟨instant.earliest_le, instant.le_latest⟩, instant.nanos_lt, instant.leap_second⟩
  exact dif_pos inRange

/-- Whole microseconds since 1970-01-01T00:00:00Z, rounded down. -/
def micros (instant : Instant) : Int := instant.seconds * 1000000 + (instant.nanos / 1000 : Nat)

def ofMicros? (micros : Int) : Option Instant :=
  of? (micros / 1000000) ((micros % 1000000).toNat * 1000)

def epoch : Instant := ⟨0, 0, by decide, by decide, by decide, by decide⟩

end Instant

end CensusNode
