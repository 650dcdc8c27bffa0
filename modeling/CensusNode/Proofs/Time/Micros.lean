import CensusNode.Time.Instant

/-!
Microseconds of instants. The microseconds of an instant are those of an instant again, except
within a leap second that follows the very last second.
-/

namespace CensusNode.Instant

/-- The microseconds of the last instant that is no leap second. -/
def latestMicros : Int := 8210266876799999999

theorem micros_bounds (instant : Instant) :
    -8334601228800000000 ≤ instant.micros ∧ instant.micros ≤ latestMicros + 1000000 := by
  have earliest := instant.earliest_le
  have latest := instant.le_latest
  have nanos := instant.nanos_lt
  unfold micros latestMicros
  omega

theorem of_micros_is_some {micros : Int} (earliest : -8334601228800000000 ≤ micros)
    (latest : micros ≤ latestMicros) : ∃ instant, ofMicros? micros = some instant := by
  unfold latestMicros at latest
  have inRange : (-8334601228800 ≤ micros / 1000000 ∧ micros / 1000000 ≤ 8210266876799) ∧
      ((micros % 1000000).toNat * 1000 < 2000000000 ∧
        (1000000000 ≤ (micros % 1000000).toNat * 1000 → micros / 1000000 % 60 = 59)) := by
    omega
  exact ⟨_, dif_pos inRange⟩

theorem of_micros_le {micros : Int} {instant : Instant} (found : ofMicros? micros = some instant) :
    micros ≤ latestMicros := by
  unfold ofMicros? of? at found
  split at found
  · rename_i inRange
    unfold latestMicros
    omega
  · cases found

theorem micros_of_of_micros {micros : Int} {instant : Instant}
    (found : ofMicros? micros = some instant) : instant.micros = micros := by
  unfold ofMicros? of? at found
  split at found
  · rw [← Option.some.inj found, Instant.micros]
    simp only
    omega
  · cases found

def nanoseconds (instant : Instant) : Int := instant.seconds * 1000000000 + instant.nanos

/-- The microseconds of an instant are those of the instant rounded down, on either side of 1970. -/
theorem nanoseconds_of_of_micros {instant rounded : Instant}
    (found : ofMicros? instant.micros = some rounded) :
    rounded.nanoseconds = instant.nanoseconds / 1000 * 1000 ∧ rounded.nanos < 1000000000 := by
  unfold ofMicros? of? at found
  split at found
  · rw [← Option.some.inj found]
    unfold nanoseconds micros
    simp only
    omega
  · cases found

end CensusNode.Instant
