import VpnDirectory.Number.Numeral

/-!
# Numerals by scaling

`Numeral.scaled?` reads a numeral in few steps, each of which rounds: the leading digits that fit 64
bits become a double, and this is multiplied or divided by powers of ten that are doubles too. The
result is `Numeral.toFloat` as long as digits and power are doubles exactly; beyond that it may be
one of its neighbours, as for `999999999999999.9`, which becomes `1e15`.
-/

namespace VpnDirectory.Numeral

/-- The largest number that digits are gathered into. -/
def maxSignificand : Nat := pow2 64 - 1

/-- Appends digits to a number up to the first one for which there is no room: the number, and how
many digits are left over. -/
def gather (n : Nat) : List Char → Nat × Nat
  | [] => (n, 0)
  | c :: cs =>
    let m := 10 * n + digitValue c
    if m ≤ maxSignificand then gather m cs else (n, cs.length + 1)

/-- The number that the digits are gathered into, and the power of ten that it is multiplied by. A
digit that is left over counts as a place if it stands before the point, and not at all behind
it. -/
def significand (n : Numeral) : Nat × Int :=
  let fraction := n.fraction.getD []
  let (m, places) := gather 0 n.whole
  let (m, rest) := gather m fraction
  (m, n.exponent.getD 0 + places + rest - fraction.length)

/-- The largest power of ten that is not beyond every double. -/
def maxPower : Nat := 308

/-- The nearest double to a power of ten. -/
def powerOfTen (e : Nat) : Float := Float.ofScientific 1 false e

/-- The double of `m * 10 ^ e`, rounded after each step, or `none` if it is too large for a double.
A small power is divided by in two steps, and a smaller one leaves nothing. -/
def scaleBy (m : Nat) (e : Int) : Option Float :=
  let x := Float.ofNat m
  let n := e.natAbs
  if m = 0 then some 0
  else if 0 ≤ e then
    if n ≤ maxPower then
      let y := x * powerOfTen n
      if Binary64.isFinite y then some y else none
    else none
  else if n ≤ maxPower then some (x / powerOfTen n)
  else if n ≤ 2 * maxPower then some (x / powerOfTen maxPower / powerOfTen (n - maxPower))
  else some 0

/-- The numeral as a double by scaling, or `none` if it is too large for a double. -/
def scaled? (n : Numeral) : Option Float :=
  let (m, e) := n.significand
  (scaleBy m e).map fun x => if n.negative then -x else x

/-! ### Gathering -/

/-- If no digit is left over, the number is that of all digits. -/
theorem gather_eq_foldl {n : Nat} {cs : List Char} (h : (gather n cs).2 = 0) :
    (gather n cs).1 = cs.foldl (fun n c => 10 * n + digitValue c) n := by
  fun_induction gather n cs with
  | case1 => rfl
  | case2 _ _ _ _ _ ih => exact ih h
  | case3 => simp at h

end VpnDirectory.Numeral
