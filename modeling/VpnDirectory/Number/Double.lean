import VpnDirectory.Number.Binary64

/-!
# Doubles by their bits

`Float` has one value that is no number. A machine has many of them, of either sign, and the total
order of doubles puts them in different places. `Double` keeps all of the bits. It calculates as
`Float` does, and where there is no number to give, `Double.noNumber` says which bits are given.
-/

namespace VpnDirectory

instance floatIntCast : IntCast Float := ⟨Float.ofInt⟩

/-- A double with all of its bits. -/
structure Double where
  bits : UInt64
  deriving DecidableEq, Repr

namespace Double

/-- A `Float` by its bits. -/
def ofFloat (x : Float) : Double := ⟨x.toBits⟩

/-- The double as a `Float`, which forgets the sign of what is no number. -/
def toFloat (x : Double) : Float := .ofBits x.bits

instance ofFloatCoe : Coe Float Double := ⟨ofFloat⟩

instance toFloatCoe : Coe Double Float := ⟨toFloat⟩

/-- Do the bits stand for no number? -/
def isNaN (x : Double) : Bool := Binary64.partsOf x.bits = .nan

/-- What comes of two doubles if it is no number: the first one of them that is none already, and
otherwise one with a minus sign. -/
def noNumber (x y : Double) : Double :=
  if x.isNaN then x else if y.isNaN then y else ⟨0xFFF8000000000000⟩

/-- An operation on doubles. -/
def lift (op : Float → Float → Float) (x y : Double) : Double :=
  let z := op x.toFloat y.toFloat
  if z.isNaN then noNumber x y else ofFloat z

instance doubleIntCast : IntCast Double := ⟨fun n => ofFloat (Float.ofInt n)⟩

instance doubleAdd : Add Double := ⟨lift (· + ·)⟩

instance doubleMul : Mul Double := ⟨lift (· * ·)⟩

instance doubleDiv : Div Double := ⟨lift (· / ·)⟩

instance doubleLE : LE Double := ⟨fun x y => x.toFloat ≤ y.toFloat⟩

instance doubleDecidableLE : DecidableLE Double :=
  fun x y => inferInstanceAs (Decidable (x.toFloat ≤ y.toFloat))

end Double

end VpnDirectory
