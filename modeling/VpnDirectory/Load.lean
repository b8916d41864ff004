import VpnDirectory.Number.Double

/-!
# Loads in words

`Load.ofValue` puts a load between zero and one into one of three classes. A value outside these
bounds, or none at all, says nothing.

Formulas for loads are stated for any arithmetic, so that they can be run on doubles and reasoned
about on fractions. `LoadNumber` is an arithmetic in which the loads that gateways report can be
taken up and put in order.
-/

namespace VpnDirectory

/-- Numbers that loads are calculated in. -/
class LoadNumber (α : Type) extends IntCast α, Add α, Mul α, Div α, LE α where
  [decidableLE : DecidableLE α]
  /-- The load that a gateway reports. -/
  ofDouble : Double → α
  /-- The double that a load is put in order by. -/
  toDouble : α → Double

attribute [reducible, instance] LoadNumber.decidableLE

/-- Doubles as machines have them. -/
@[default_instance]
instance doubleLoadNumber : LoadNumber Double where
  ofDouble x := x
  toDouble x := x

/-- Doubles of which only one is no number. -/
instance floatLoadNumber : LoadNumber Float where
  ofDouble := Double.toFloat
  toDouble := Double.ofFloat

/-- A class of loads. -/
inductive Load
  | unknown
  | good
  | average
  | critical
  deriving DecidableEq, Repr

namespace Load

/-- The name of a class. -/
def name : Load → String
  | unknown => "unknown"
  | good => "good"
  | average => "average"
  | critical => "critical"

variable {α : Type} [IntCast α] [Div α] [LE α] [DecidableLE α]

/-- So many quarters. -/
def quarters (n : Int) : α := (n : α) / ((4 : Int) : α)

/-- The class of a load: up to a quarter, up to three quarters, and up to one. -/
def ofValue (x : α) : Load :=
  if x ≤ quarters 0 then unknown
  else if x ≤ quarters 1 then good
  else if x ≤ quarters 3 then average
  else if x ≤ quarters 4 then critical
  else unknown

end Load

end VpnDirectory
