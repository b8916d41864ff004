import VpnDirectory.Number.Binary64

/-!
# The shortest decimal of a double

`Shortest.decimal` is the decimal with the fewest digits among those that round to a given double,
and the nearest one of these.

A number is held as a fraction of two natural numbers. The decimals with `n` digits near it form a
grid; the shortest decimal is the first hit when `n` grows, and on one grid only the two neighbours
of the number have to be tried. `Shortest.Interval` holds the numbers that round to the double.
-/

namespace VpnDirectory.Shortest

/-- The numbers that round to a double, all over one denominator: those between `low` and `high`,
the ends belonging to it when `closed`. -/
structure Interval where
  low : Nat
  middle : Nat
  high : Nat
  denominator : Nat
  closed : Bool
  deriving Repr

/-- The interval of `significand * 2 ^ exponent`. The ends are half way to the neighbouring
doubles; the lower neighbour of a power of two is nearer. -/
def Interval.ofParts (significand : Nat) (exponent : Int) : Interval :=
  let nearBelow := significand = pow2 52 ∧ Binary64.minExponent < exponent
  let scale := exponent - 2
  let numerator (n : Nat) := n * pow2 scale.toNat
  { low := numerator (4 * significand - if nearBelow then 1 else 2)
    middle := numerator (4 * significand)
    high := numerator (4 * significand + 2)
    denominator := pow2 (-scale).toNat
    closed := significand % 2 = 0 }

/-- Is the number `digits * unit / base` in the interval? -/
def Interval.contains (i : Interval) (digits unit base : Nat) : Bool :=
  let n := digits * unit * i.denominator
  if i.closed then i.low * base ≤ n && n ≤ i.high * base
  else i.low * base < n && n < i.high * base

/-- A decimal: `digits * 10 ^ exponent`. -/
structure Decimal where
  digits : Nat
  exponent : Int
  deriving DecidableEq, Repr

/-- Number of decimal digits; zero has one. -/
def digitCount (n : Nat) : Nat := (Nat.toDigits 10 n).length

/-- The power of ten of the leading digit of a positive fraction. -/
def leadingExponent (numerator denominator : Nat) : Int :=
  if denominator ≤ numerator then (digitCount (numerator / denominator) : Int) - 1
  else -(digitCount (denominator / numerator) : Int)

/-- The nearer in the interval of the two neighbours of its middle on the grid of the multiples of
`10 ^ exponent`. Half way between them, the even one is taken. -/
def onGrid (i : Interval) (exponent : Int) : Option Decimal :=
  let unit := pow10 exponent.toNat
  let base := pow10 (-exponent).toNat
  let below := i.middle * base / (unit * i.denominator)
  let rest := i.middle * base % (unit * i.denominator)
  let nearestBelow := 2 * rest < unit * i.denominator ∨
    2 * rest = unit * i.denominator ∧ below % 2 = 0
  let tryFirst := if nearestBelow then below else below + 1
  let trySecond := if nearestBelow then below + 1 else below
  if i.contains tryFirst unit base then some ⟨tryFirst, exponent⟩
  else if i.contains trySecond unit base then some ⟨trySecond, exponent⟩
  else none

/-- Tries finer and finer grids, at most `count` of them. -/
def search (i : Interval) : (count : Nat) → (exponent : Int) → Option Decimal
  | 0, _ => none
  | count + 1, exponent =>
    match onGrid i exponent with
    | some d => some d
    | none => search i count (exponent - 1)

/-- Seventeen digits tell any two doubles apart. -/
def maxDigits : Nat := 17

/-- The shortest decimal of the positive number `significand * 2 ^ exponent`. -/
def decimal (significand : Nat) (exponent : Int) : Decimal :=
  let i := Interval.ofParts significand exponent
  (search i maxDigits (leadingExponent i.middle i.denominator)).getD ⟨0, 0⟩

end VpnDirectory.Shortest
