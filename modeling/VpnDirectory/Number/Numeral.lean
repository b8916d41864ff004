import VpnDirectory.Number.Binary64

/-!
# Numerals

A numeral is a signed sequence of decimal digits with an optional fraction and an optional power
of ten.

* `Numeral.toFloat` is the nearest double, a half going to the even one; a numeral beyond the
  largest double gives an infinity and one below the smallest gives a zero;
* `Numeral.ofText?` reads the free spelling, in which digits may be missing on one side of the
  point;
* `wholeNumber?` reads a signed whole number.
-/

namespace VpnDirectory

/-- The ten ASCII digits. -/
def isDigit (c : Char) : Bool := '0' ≤ c && c ≤ '9'

/-- The value of a digit of any base up to sixteen. -/
def digitValue (c : Char) : Nat :=
  if isDigit c then c.toNat - '0'.toNat
  else if 'a' ≤ c ∧ c ≤ 'f' then c.toNat - 'a'.toNat + 10
  else c.toNat - 'A'.toNat + 10

/-- Digits of a base as a number, the first one being the highest. -/
def digitsValue (base : Nat) (digits : List Char) : Nat :=
  digits.foldl (fun n c => base * n + digitValue c) 0

/-- The hexadecimal digits of both cases. -/
def isHexDigit (c : Char) : Bool :=
  isDigit c || ('a' ≤ c && c ≤ 'f') || ('A' ≤ c && c ≤ 'F')

/-- A decimal numeral. The fraction is kept apart because some readers tell `1` from `1.0`. -/
structure Numeral where
  negative : Bool := false
  whole : List Char
  fraction : Option (List Char) := none
  exponent : Option Int := none
  deriving DecidableEq, Repr

namespace Numeral

/-- Neither fraction nor exponent is written. -/
def isWhole (n : Numeral) : Bool := n.fraction.isNone && n.exponent.isNone

/-- All digits as one number, without the point. -/
def coefficient (n : Numeral) : Nat := digitsValue 10 (n.whole ++ n.fraction.getD [])

/-- The power of ten that the coefficient is multiplied by. -/
def scale (n : Numeral) : Int := n.exponent.getD 0 - (n.fraction.getD []).length

/-- No double is as large as ten to this power. -/
def maxScale : Int := 310

/-- Below ten to this power every number rounds to zero. -/
def minScale : Int := -400

/-- The nearest double to the absolute value. -/
def magnitude (n : Numeral) : Float :=
  let m := n.coefficient
  let leading := n.scale + (Nat.toDigits 10 m).length
  if m = 0 ∨ leading < minScale then 0
  else if maxScale < leading then 1 / 0
  else Float.ofScientific m (n.scale < 0) n.scale.natAbs

/-- The nearest double. -/
def toFloat (n : Numeral) : Float :=
  if n.negative then -n.magnitude else n.magnitude

/-! ### Reading -/

/-- A sign, `true` for minus, and what follows it. -/
def readSign : List Char → Option Bool × List Char
  | '-' :: cs => (some true, cs)
  | '+' :: cs => (some false, cs)
  | cs => (none, cs)

/-- The power of ten after `e` or `E`, if there is one, and what follows it. Refuses an `e` that
no digit follows. -/
def readExponent : List Char → Option (Option Int × List Char)
  | c :: cs =>
    if c = 'e' ∨ c = 'E' then
      let (sign, cs) := readSign cs
      let (digits, rest) := cs.span isDigit
      if digits.isEmpty then none
      else
        let n : Int := digitsValue 10 digits
        some (some (if sign = some true then -n else n), rest)
    else some (none, c :: cs)
  | [] => some (none, [])

/-- The digits after the point, if there is one, and what follows them. -/
def readFraction : List Char → Option (List Char) × List Char
  | '.' :: cs => let (digits, rest) := cs.span isDigit; (some digits, rest)
  | cs => (none, cs)

/-- The free spelling: an optional sign, digits with an optional point among them, and an optional
power of ten. -/
def ofText? (cs : List Char) : Option Numeral :=
  let (sign, cs) := readSign cs
  let (whole, cs) := cs.span isDigit
  let (fraction, cs) := readFraction cs
  if whole.isEmpty ∧ (fraction.getD []).isEmpty then none
  else match readExponent cs with
    | some (exponent, []) => some { negative := sign = some true, whole, fraction, exponent }
    | _ => none

end Numeral

/-- A double in the free spelling: a numeral, or a name of infinity or of the missing value in any
case. -/
def float? (cs : List Char) : Option Float :=
  match Numeral.ofText? cs with
  | some n => some n.toFloat
  | none =>
    let (sign, cs) := Numeral.readSign cs
    let named (x : Float) := some (if sign = some true then -x else x)
    let name := String.ofList (cs.map Char.toLower)
    if name = "inf" ∨ name = "infinity" then named (1 / 0)
    else if name = "nan" then named (0 / 0)
    else none

/-- A signed whole number in ASCII digits. -/
def wholeNumber? (cs : List Char) : Option Int :=
  let (sign, digits) := Numeral.readSign cs
  if digits.isEmpty ∨ !digits.all isDigit then none
  else
    let n : Int := digitsValue 10 digits
    some (if sign = some true then -n else n)

end VpnDirectory
