/-!
Lengths of time: whole seconds below `2 ^ 64` and nanoseconds within the second.
-/

namespace CensusNode

structure Duration where
  seconds : Nat
  nanos : Nat
  seconds_lt : seconds < 18446744073709551616
  nanos_lt : nanos < 1000000000
deriving DecidableEq, Repr

namespace Duration

def zero : Duration := ⟨0, 0, by decide, by decide⟩

def of? (seconds nanos : Nat) : Option Duration :=
  if inRange : seconds < 18446744073709551616 ∧ nanos < 1000000000 then
    some ⟨seconds, nanos, inRange.1, inRange.2⟩
  else none

/-- The duration with a further amount of less than `2 ^ 64` seconds, when there is one. -/
def add? (duration : Duration) (seconds nanos : Nat) : Option Duration :=
  let total := duration.nanos + nanos
  of? (duration.seconds + seconds + total / 1000000000) (total % 1000000000)

def totalNanos (duration : Duration) : Nat := duration.seconds * 1000000000 + duration.nanos

def millis (duration : Duration) : Nat := duration.seconds * 1000 + duration.nanos / 1000000

end Duration

end CensusNode
