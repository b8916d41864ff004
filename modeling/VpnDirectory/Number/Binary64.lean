import VpnDirectory.Number.Range

/-!
# Doubles as exact numbers

A double is read from its bits:

* `Binary64.parts` gives sign, significand and power of two, or says that there is no number;
* `Binary64.truncate` drops the fraction and stops at two bounds;
* `Binary64.orderKey` puts every pattern of bits, zeros and values that are no number of both signs
  included, at its place in the total order of the floating-point standard.
-/

namespace VpnDirectory.Binary64

/-- What the bits of a double say. -/
inductive Parts
  | nan
  | infinite (negative : Bool)
  /-- The number is `significand * 2 ^ exponent`, with a minus sign if `negative`. -/
  | finite (negative : Bool) (significand : Nat) (exponent : Int)
  deriving DecidableEq, Repr

/-- The smallest power of two that a significand is multiplied by. -/
def minExponent : Int := -1074

/-- Sign, significand and exponent that the bits of a double stand for. -/
def partsOf (bits : UInt64) : Parts :=
  let bits := bits.toNat
  let negative := decide (pow2 63 ≤ bits)
  let biased := bits / pow2 52 % pow2 11
  let fraction := bits % pow2 52
  if biased = pow2 11 - 1 then
    if fraction = 0 then .infinite negative else .nan
  else if biased = 0 then .finite negative fraction minExponent
  else .finite negative (pow2 52 + fraction) (minExponent + (biased - 1 : Nat))

/-- Sign, significand and exponent of a double. -/
def parts (x : Float) : Parts := partsOf x.toBits

/-- `significand * 2 ^ exponent` without its fraction. -/
def wholePart (significand : Nat) (exponent : Int) : Nat :=
  if 0 ≤ exponent then significand * pow2 exponent.toNat
  else significand / pow2 (-exponent).toNat

/-- The number without its fraction, or the nearer of the bounds `lo` and `hi` if it lies outside
them; what is no number counts as zero. -/
def truncate (lo hi : Int) (x : Float) : Int :=
  match parts x with
  | .nan => 0
  | .infinite negative => if negative then lo else hi
  | .finite negative significand exponent =>
    let n := wholePart significand exponent
    max lo (min hi (if negative then -(n : Int) else n))

/-- Neither infinite nor without a value. -/
def isFinite (x : Float) : Bool :=
  match parts x with
  | .finite .. => true
  | _ => false

/-! ### Total order -/

/-- The place of a double in the total order: increasing with the bits for positive signs,
decreasing for negative ones, and negative zero right below zero. -/
def orderKey (bits : UInt64) : Int :=
  let bits := bits.toNat
  if pow2 63 ≤ bits then -((bits - pow2 63 : Nat) : Int) - 1 else bits

/-- The first double stands at or before the second one in the total order. -/
def totalLE (a b : UInt64) : Bool := decide (orderKey a ≤ orderKey b)

theorem eq_of_orderKey_eq {a b : UInt64} (h : orderKey a = orderKey b) : a = b := by
  apply UInt64.toNat_inj.1
  simp only [orderKey] at h
  split at h <;> split at h <;> omega

end VpnDirectory.Binary64
