import VpnDirectory.Load
import VpnDirectory.Transport

/-!
# Locations

A `Location` sums up the gateways of one place: how many there are, their mean load, and the
transports that at least one of them has. `Location.add` takes one more gateway into account. The
mean is stated for any arithmetic.
-/

namespace VpnDirectory

/-- The gateways of one place in sum. -/
structure Location (α : Type) where
  name : String
  /-- The mean of the loads so far. -/
  averageLoad : α
  gatewayCount : Nat := 0
  /-- Is it the preferred city? -/
  isSelected : Bool := false
  /-- In their order and without repetition. -/
  transports : List Transport := []

namespace Location

variable {α : Type} [IntCast α]

/-- The place without gateways. -/
def empty (name : String) (isSelected : Bool) : Location α :=
  { name, averageLoad := ((0 : Int) : α), isSelected }

/-- Two lists of transports as one, in order and without repetition. -/
def unite (a b : List Transport) : List Transport :=
  Transport.all.filter fun t => a.contains t || b.contains t

/-- Takes one more gateway into account. -/
def add [Add α] [Mul α] [Div α] (l : Location α) (fullness : α) (transports : List Transport) :
    Location α :=
  let n : α := ((l.gatewayCount : Int) : α)
  { l with
    averageLoad := (n * l.averageLoad + fullness) / (n + ((1 : Int) : α))
    gatewayCount := l.gatewayCount + 1
    transports := unite l.transports transports }

/-- The class of the mean load. -/
def load [Div α] [LE α] [DecidableLE α] (l : Location α) : Load := Load.ofValue l.averageLoad

/-- Has a gateway of the place the transport? -/
def supports (l : Location α) (t : Transport) : Bool := l.transports.contains t

end Location

end VpnDirectory
