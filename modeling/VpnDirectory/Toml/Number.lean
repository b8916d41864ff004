import VpnDirectory.Number.Numeral
import VpnDirectory.Number.Range
import VpnDirectory.Toml.Space
import VpnDirectory.Toml.Value

/-!
# Numbers in TOML documents

Digits may have single underscores between them.

* `readInteger` reads whole numbers of 64 bits in four bases;
* `readFinite` reads numbers with a fraction or a power of ten;
* `readNamed` reads infinities and the missing value.
-/

namespace VpnDirectory.Toml

/-- Digits with single underscores between them, and what follows them. -/
def readDigits (isOne : Char → Bool) : Reader (List Char)
  | [] => none
  | c :: cs =>
    if isOne c then
      match cs with
      | '_' :: rest => (readDigits isOne rest).map fun r => (c :: r.1, r.2)
      | rest =>
        match readDigits isOne rest with
        | some r => some (c :: r.1, r.2)
        | none => some ([c], rest)
    else none

/-- A sign and decimal digits, without a zero in front. -/
def readDecimal (cs : List Char) : Option (Bool × List Char × List Char) := do
  let (sign, cs) := Numeral.readSign cs
  let (digits, rest) ← match cs with
    | '0' :: rest => some (['0'], rest)
    | cs => readDigits isDigit cs
  some (sign = some true, digits, rest)

/-- An integer of 64 bits in base ten, or without a sign in base sixteen, eight or two. -/
def readInteger : Reader Value := fun cs => do
  let based (base : Nat) (isOne : Char → Bool) (cs : List Char) : Option (Value × List Char) := do
    let (digits, rest) ← readDigits isOne cs
    let n ← Range.int64.check (digitsValue base digits)
    some (.integer n, rest)
  match cs with
  | '0' :: 'x' :: cs => based 16 isHexDigit cs
  | '0' :: 'o' :: cs => based 8 (fun c => '0' ≤ c && c ≤ '7') cs
  | '0' :: 'b' :: cs => based 2 (fun c => c = '0' || c = '1') cs
  | cs => do
    let (negative, digits, rest) ← readDecimal cs
    let n : Int := digitsValue 10 digits
    let n ← Range.int64.check (if negative then -n else n)
    some (.integer n, rest)

/-- The power of ten of a number. -/
def readPower : Reader Int := fun cs =>
  match cs with
  | c :: cs =>
    if c = 'e' ∨ c = 'E' then do
      let (sign, cs) := Numeral.readSign cs
      let (digits, rest) ← readDigits isDigit cs
      let n : Int := digitsValue 10 digits
      some (if sign = some true then -n else n, rest)
    else none
  | [] => none

/-- A number with a fraction, a power of ten or both. Only above zero may it not be larger than
every double. -/
def readFinite : Reader Value := fun cs => do
  let (negative, whole, rest) ← readDecimal cs
  let (fraction, rest) ← match rest with
    | '.' :: cs => do
      let (digits, rest) ← readDigits isDigit cs
      some (some digits, rest)
    | cs => some (none, cs)
  let (exponent, rest) ← match rest with
    | c :: _ =>
      if c = 'e' ∨ c = 'E' then do
        let (n, rest) ← readPower rest
        some (some n, rest)
      else some (none, rest)
    | [] => some (none, [])
  if fraction.isNone ∧ exponent.isNone then none
  else
    let x := Numeral.toFloat { negative, whole, fraction, exponent }
    if Binary64.isFinite x || negative then some (.real x, rest) else none

/-- A named number. -/
def readNamed : Reader Value := fun cs =>
  let (sign, cs) := Numeral.readSign cs
  let signed (x : Float) := Value.real (if sign = some true then -x else x)
  match cs with
  | 'i' :: 'n' :: 'f' :: rest => some (signed (1 / 0), rest)
  | 'n' :: 'a' :: 'n' :: rest => some (signed (0 / 0), rest)
  | _ => none

end VpnDirectory.Toml
