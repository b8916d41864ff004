import VpnDirectory.Gateway

/-!
# Orders of gateways

An order of gateways is a list of their numbers in the list of gateways.

* `Strategy` says where the order comes from;
* `rankNumbersIn` orders gateways by the distance between their time zone and that of a client. With
  checked arithmetic there may be no distance; `rankNumbers` is the order with wrapping arithmetic;
* `ranked` walks an order from place to place, up to the first one that has no gateway.
-/

namespace VpnDirectory

/-- Where the order of the gateways comes from. -/
inductive Strategy
  | serverLoad
  | serverOrder
  | clientTimezone
  deriving DecidableEq, Repr

namespace Strategy

/-- The strategy in words. -/
def name : Strategy → String
  | serverLoad => "server load"
  | serverOrder => "server order"
  | clientTimezone => "client timezone"

/-- Does the order come from a server? -/
def isPresorted : Strategy → Bool
  | clientTimezone => false
  | _ => true

end Strategy

/-! ### Orders by distance -/

/-- The numbers of the elements of a list of distances, those of the least distances first; elements
at the same distance stay in their order. -/
def sortedNumbers (distances : List Int) : List Nat :=
  (List.range distances.length).mergeSort fun i j =>
    decide (distances.getD i 0 ≤ distances.getD j 0)

/-- The numbers of gateways by distance from a client, the nearest first. A gateway alone is not
compared. -/
def rankNumbersIn (arithmetic : Arithmetic) (client : Int) (gateways : List Gateway) :
    Except Overflow (List Nat) := do
  if gateways.length ≤ 1 then .ok (List.range gateways.length)
  else .ok (sortedNumbers
    (← gateways.mapM fun g => Clock.distanceIn arithmetic client g.timezone))

/-- The numbers of gateways by distance from a client if differences wrap around. -/
def rankNumbers (client : Int) (gateways : List Gateway) : List Nat :=
  sortedNumbers (gateways.map fun g => Clock.distance client g.timezone)

/-! ### Gateways by place -/

/-- The gateway at a place of an order; a number that no gateway has leaves its place empty. -/
def numbered? (gateways : List Gateway) (numbers : List Nat) (n : Nat) : Option Gateway :=
  numbers[n]?.bind fun i => gateways[i]?

theorem lt_of_numbered?_eq_some {gateways : List Gateway} {numbers : List Nat} {n : Nat}
    {g : Gateway} (h : numbered? gateways numbers n = some g) : n < numbers.length := by
  obtain ⟨i, hi, -⟩ := Option.bind_eq_some_iff.1 h
  exact (List.getElem?_eq_some_iff.1 hi).1

/-- The gateways of an order from a place on, up to the first place that is empty. -/
def ranked (gateways : List Gateway) (numbers : List Nat) (n : Nat) : List Gateway :=
  match h : numbered? gateways numbers n with
  | some g => g :: ranked gateways numbers (n + 1)
  | none => []
termination_by numbers.length - n
decreasing_by
  have hlt := lt_of_numbered?_eq_some h
  omega

/-- Gateways by distance from a client, the nearest first, if differences wrap around. -/
def rank (client : Int) (gateways : List Gateway) : List Gateway :=
  ranked gateways (rankNumbers client gateways) 0

/-! ### Orders of a server -/

/-- A host that a server names, with its load if it says one. -/
structure NamedHost where
  host : String
  load : Option ReportedLoad := none

namespace ServerOrder

/-- The strategy of an order. -/
def strategy : ServerOrder → Strategy
  | byLoad _ => .serverLoad
  | byName _ => .serverOrder

/-- The hosts of an order. -/
def hosts : ServerOrder → List NamedHost
  | byLoad hosts => hosts.map fun h => ⟨h.host, some h.load⟩
  | byName hosts => hosts.map fun h => ⟨h, none⟩

end ServerOrder

end VpnDirectory
