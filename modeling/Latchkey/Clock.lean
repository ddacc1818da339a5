/-
Instants and durations, both in whole milliseconds. The calendar has a first and a last instant,
so moving an instant by a duration can fail, and so can turning a number into a duration.
-/
namespace Latchkey

/-- Milliseconds since the beginning of 1970, UTC. -/
abbrev Instant := Int

/-- A signed length of time in milliseconds. -/
abbrev Duration := Int

namespace Clock

/-- The beginning of the year -262143. -/
def earliest : Instant := -8334601228800000

/-- The last millisecond of the year 262142. -/
def latest : Instant := 8210266876799999

/-- The longest duration, in either direction. -/
def longest : Duration := 9223372036854775807

/-- The instant `d` after `t`, unless it lies outside the calendar. -/
def shift? (t : Instant) (d : Duration) : Option Instant :=
  if earliest ≤ t + d ∧ t + d ≤ latest then some (t + d) else none

/-- Whole seconds, rounded towards the past. -/
def seconds (t : Int) : Int := t / 1000

/-- `m` milliseconds, unless they are too long for a duration. -/
def milliseconds? (m : Int) : Option Duration :=
  if -longest ≤ m ∧ m ≤ longest then some m else none

/-- `m` minutes, unless they are too long for a duration. -/
def minutes? (m : Int) : Option Duration :=
  milliseconds? (m * 60000)

theorem shift?_eq_some_iff {t u : Instant} {d : Duration} :
    shift? t d = some u ↔ u = t + d ∧ earliest ≤ t + d ∧ t + d ≤ latest := by
  unfold shift?
  split <;> simp_all [eq_comm]

theorem shift?_eq_none_iff {t : Instant} {d : Duration} :
    shift? t d = none ↔ t + d < earliest ∨ latest < t + d := by
  unfold shift?
  split
  · simp_all
  · rename_i h
    rw [Decidable.not_and_iff_not_or_not, Int.not_le, Int.not_le] at h
    simp only [h]

end Clock

end Latchkey
