import VpnDirectory.Number.Shortest

/-!
# Decimal texts of doubles

* `Layout.shortest?` is the text of a double in documents: the shortest decimal that reads back,
  written out when its leading digit stands near the point and with a power of ten otherwise;
* `Layout.places` is the text with a fixed number of places, the exact value being rounded, a half
  to the even neighbour.
-/

namespace VpnDirectory.Layout

/-- A minus sign or nothing. -/
def sign (negative : Bool) : List Char := if negative then ['-'] else []

/-- Decimal digits of a natural number. -/
def natural (n : Nat) : List Char := Nat.toDigits 10 n

/-- Decimal digits of an integer, with a minus sign if it is negative. -/
def integer : Int → List Char
  | .ofNat n => natural n
  | .negSucc n => '-' :: natural (n + 1)

/-! ### Shortest decimals -/

/-- Exponents of the leading digit for which a decimal is written out. -/
def isPlain (exponent : Int) : Bool := -5 ≤ exponent && exponent < 16

/-- The digits without zeros at the end. -/
def dropZeros (digits : List Char) : List Char :=
  (digits.reverse.dropWhile (· == '0')).reverse

/-- A decimal written out; `exponent` is that of the leading digit, and at least one digit stands
on each side of the point. -/
def plain (digits : List Char) (exponent : Int) : List Char :=
  if exponent < 0 then
    '0' :: '.' :: List.replicate (-exponent - 1).toNat '0' ++ digits
  else
    let whole := exponent.toNat + 1
    let fraction := digits.drop whole
    (digits.take whole ++ List.replicate (whole - digits.length) '0') ++
      '.' :: if fraction.isEmpty then ['0'] else fraction

/-- A decimal with a power of ten that always carries a sign. -/
def scientific (digits : List Char) (exponent : Int) : List Char :=
  let mantissa := match digits with
    | [] => []
    | [d] => [d]
    | d :: ds => d :: '.' :: ds
  let power := if exponent < 0 then integer exponent else '+' :: integer exponent
  mantissa ++ 'e' :: power

/-- The text of a double in a document; `none` if it is no finite number. -/
def shortest? (x : Float) : Option (List Char) :=
  match Binary64.parts x with
  | .finite negative 0 _ => some (sign negative ++ ['0', '.', '0'])
  | .finite negative significand exponent =>
    let d := Shortest.decimal significand exponent
    let all := natural d.digits
    let leading := d.exponent + all.length - 1
    let digits := dropZeros all
    some (sign negative ++ if isPlain leading then plain digits leading
      else scientific digits leading)
  | _ => none

/-! ### Fixed places -/

/-- `numerator / denominator` rounded to the nearest integer, a half to the even one. -/
def roundDiv (numerator denominator : Nat) : Nat :=
  let q := numerator / denominator
  let r := numerator % denominator
  if 2 * r < denominator ∨ 2 * r = denominator ∧ q % 2 = 0 then q else q + 1

/-- The text of a double with `count` places after the point. -/
def places (count : Nat) (x : Float) : List Char :=
  match Binary64.parts x with
  | .nan => "NaN".toList
  | .infinite negative => sign negative ++ "inf".toList
  | .finite negative significand exponent =>
    let n := roundDiv (significand * pow2 exponent.toNat * pow10 count) (pow2 (-exponent).toNat)
    let whole := natural (n / pow10 count)
    let fraction := natural (n % pow10 count)
    sign negative ++ whole ++ '.' :: (List.replicate (count - fraction.length) '0' ++ fraction)

end VpnDirectory.Layout
