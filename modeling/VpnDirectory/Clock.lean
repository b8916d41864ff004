import VpnDirectory.Number.Range

/-!
# Time zones as a measure of nearness

Where no server says how gateways are loaded, the time zone of a gateway stands in for it.

* `Clock.around` is the way between two times of day around the clock, twelve hours at most;
* `Clock.distanceIn` is the way between two time zones, whose difference has 32 bits. With checked
  arithmetic there may be none; `Clock.distance` is the one with wrapping arithmetic;
* `Clock.estimate` makes a load of it, from a tenth to one. It is stated for any arithmetic, so that
  it can be run on doubles and reasoned about on fractions.
-/

namespace VpnDirectory.Clock

/-- Hours around the clock. -/
def hours : Int := 24

/-- The largest distance. -/
def maxDistance : Int := hours / 2

/-- A number of hours, the shorter way around the clock. -/
def around (n : Int) : Int := min (n % hours) (hours - n % hours)

/-- Hours between two offsets from universal time, the shorter way around the clock. -/
def distanceIn (arithmetic : Arithmetic) (a b : Int) : Except Overflow Int := do
  .ok (around (← arithmetic.subtract Range.int32 a b))

/-- Hours between two offsets, if their difference wraps around. -/
def distance (a b : Int) : Int := around (Range.int32.wrap (a - b))

section Estimate

variable {α : Type} [IntCast α] [Div α] [LE α] [DecidableLE α]

/-- The load that a distance stands for: its share of the largest distance, and a tenth at
least. -/
def estimateOf (d : Int) : α :=
  let share : α := (d : α) / (maxDistance : α)
  let least : α := ((1 : Int) : α) / ((10 : Int) : α)
  if share ≤ least then least else share

/-- The load that a gateway is estimated to have for a client. -/
def estimateIn (arithmetic : Arithmetic) (client gateway : Int) : Except Overflow α := do
  .ok (estimateOf (← distanceIn arithmetic client gateway))

/-- The load that a gateway is estimated to have if differences wrap around. -/
def estimate (client gateway : Int) : α := estimateOf (distance client gateway)

end Estimate

theorem around_nonneg (n : Int) : 0 ≤ around n := by
  simp only [around, hours]
  omega

theorem around_le (n : Int) : around n ≤ maxDistance := by
  simp only [around, maxDistance, hours]
  omega

/-- Back is as long as forth. -/
theorem around_neg (n : Int) : around (-n) = around n := by
  simp only [around, hours]
  omega

theorem distance_nonneg (a b : Int) : 0 ≤ distance a b := around_nonneg _

theorem distance_le (a b : Int) : distance a b ≤ maxDistance := around_le _

theorem distance_comm (a b : Int) : distance a b = distance b a := by
  rw [distance, distance, ← Int.neg_sub]
  rcases Range.wrap_int32_neg (b - a) with h | h <;> rw [h]
  exact around_neg _

end VpnDirectory.Clock
