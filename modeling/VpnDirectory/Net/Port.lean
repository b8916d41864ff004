import VpnDirectory.Number.Numeral

/-!
# Port numbers

A port is written in ASCII digits, leading zeros and a plus sign being allowed, and is at most
65535.
-/

namespace VpnDirectory

/-- A port number. -/
abbrev Port := UInt16

namespace Port

/-- The number of ports. -/
def bound : Nat := pow2 16

/-- The digits of a port text: all of it, or what follows its plus sign. -/
def digits : List Char → List Char
  | '+' :: cs => cs
  | cs => cs

/-- Reads a port. -/
def ofText? (s : String) : Option Port :=
  let ds := digits s.toList
  if ds.isEmpty ∨ !ds.all isDigit then none
  else
    let n := digitsValue 10 ds
    if n < bound then some (UInt16.ofNat n) else none

/-- The decimal text of a port. -/
def text (p : Port) : String := toString p.toNat

end Port

end VpnDirectory
