/-!
# Ranges of whole numbers

Documents and arguments hold whole numbers of a fixed width; `Range` names the widths by their
bounds. Doubles are scaled by powers of two, and decimals by powers of ten: `pow2` and `pow10`.

The difference of two numbers of a fixed width may leave their range. How a program is built decides
what becomes of it: `Arithmetic.wrapping` goes around to the other end of the range, and
`Arithmetic.checked` stops.
-/

namespace VpnDirectory

/-! ### Powers -/

/-- Two to a power. -/
def pow2 (n : Nat) : Nat := Nat.pow 2 n

/-- Ten to a power. -/
def pow10 (n : Nat) : Nat := Nat.pow 10 n

theorem pow2_pos (n : Nat) : 0 < pow2 n := Nat.pow_pos (by decide)

theorem pow10_pos (n : Nat) : 0 < pow10 n := Nat.pow_pos (by decide)

theorem pow2_mono {m n : Nat} (h : m ≤ n) : pow2 m ≤ pow2 n := Nat.pow_le_pow_right (by decide) h

theorem pow2_succ (n : Nat) : pow2 (n + 1) = 2 * pow2 n := Nat.mul_comm _ _

theorem pow10_succ (n : Nat) : pow10 (n + 1) = 10 * pow10 n := Nat.mul_comm _ _

/-! ### Ranges -/

/-- The whole numbers from `low` to `high`. -/
structure Range where
  low : Int
  high : Int
  deriving DecidableEq, Repr

namespace Range

/-- The signed numbers of `bits` bits. -/
def signed (bits : Nat) : Range := ⟨-(pow2 (bits - 1)), pow2 (bits - 1) - 1⟩

/-- Signed numbers of 32 bits: versions, serial numbers and time zones. -/
def int32 : Range := signed 32

/-- Signed numbers of 64 bits. -/
def int64 : Range := signed 64

/-- Is the number between the bounds? -/
def contains (r : Range) (n : Int) : Bool := r.low ≤ n && n ≤ r.high

/-- The number if it is between the bounds. -/
def check (r : Range) (n : Int) : Option Int := if r.contains n then some n else none

/-- The number between the bounds that is reached by going around from one to the other. -/
def wrap (r : Range) (n : Int) : Int := r.low + (n - r.low) % (r.high + 1 - r.low)

theorem contains_iff {r : Range} {n : Int} : r.contains n ↔ r.low ≤ n ∧ n ≤ r.high := by
  rw [contains, Bool.and_eq_true, decide_eq_true_eq, decide_eq_true_eq]

theorem contains_int32_iff {n : Int} :
    int32.contains n ↔ -2147483648 ≤ n ∧ n ≤ 2147483647 := contains_iff

/-- A number between the bounds stays where it is. -/
theorem wrap_of_contains {r : Range} {n : Int} (h : r.contains n) : r.wrap n = n := by
  rw [contains_iff] at h
  rw [wrap, Int.emod_eq_of_lt (by omega) (by omega)]
  omega

theorem wrap_int32 (n : Int) :
    int32.wrap n = -2147483648 + (n + 2147483648) % 4294967296 := rfl

/-- The opposite number is reached, unless the number is the one without an opposite. -/
theorem wrap_int32_neg (n : Int) :
    int32.wrap (-n) = -int32.wrap n ∨ int32.wrap (-n) = int32.wrap n := by
  rw [wrap_int32, wrap_int32]
  omega

end Range

/-! ### Differences -/

/-- A number that has left its range. -/
structure Overflow where
  deriving DecidableEq, Repr

/-- What becomes of numbers that leave their range. -/
inductive Arithmetic
  | wrapping
  | checked
  deriving DecidableEq, Repr

/-- The difference of two numbers of a range. -/
def Arithmetic.subtract (arithmetic : Arithmetic) (r : Range) (x y : Int) : Except Overflow Int :=
  match arithmetic with
  | wrapping => .ok (r.wrap (x - y))
  | checked => if r.contains (x - y) then .ok (x - y) else .error {}

end VpnDirectory
