import VpnDirectory.Directory.Selection
import VpnDirectory.Location

/-!
# The locations of a directory

The gateways that are offered are summed up by the names of their locations, in the order in which
a location's first gateway stands.
-/

namespace VpnDirectory

variable {α : Type} [LoadNumber α]

/-- Locations by their mean loads in the total order of doubles, the least loaded first; equally
loaded ones stay in order. -/
def sortedByLoad (ls : List (Location α)) : List (Location α) :=
  ls.mergeSort fun a b => Binary64.totalLE (LoadNumber.toDouble a.averageLoad).bits
    (LoadNumber.toDouble b.averageLoad).bits

/-- The load of the first location of a list. -/
def firstLoad (ls : List (Location α)) : Load :=
  match ls.head? with
  | some l => l.load
  | none => .unknown

namespace Directory

variable (d : Directory) (arithmetic : Arithmetic)

/-- Adds a gateway to the location of its name, which comes about if it is not there. -/
def addTo (g : Gateway) (fullness : α) : List (Location α) → List (Location α)
  | [] =>
    let selected := d.preferences.preferredCity == some g.name
    [(Location.empty g.name selected).add fullness g.transports]
  | l :: ls =>
    if l.name = g.name then l.add fullness g.transports :: ls else l :: addTo g fullness ls

/-- The locations of gateways, in the order in which their first gateways stand. -/
def locationsOfIn (gateways : List Gateway) : Except Overflow (List (Location α)) :=
  gateways.foldlM (fun ls g => do
    .ok (d.addTo g (← g.fullnessIn arithmetic d.clientTimezone) ls)) []

@[inherit_doc locationsOfIn]
def locationsOf (gateways : List Gateway) : List (Location α) :=
  gateways.foldl (fun ls g => d.addTo g (g.fullness d.clientTimezone) ls) []

/-- The locations with the preferred transport, in order. -/
def locationsIn : Except Overflow (List (Location α)) := do
  d.locationsOfIn arithmetic (← d.offeredIn arithmetic d.transport none)

@[inherit_doc locationsIn]
def locations : List (Location α) := d.locationsOf (d.offered d.transport none)

/-- The locations with a transport, the least loaded first. -/
def sortedLocationsIn (t : Transport) : Except Overflow (List (Location α)) := do
  .ok (sortedByLoad (← d.locationsOfIn arithmetic (← d.offeredIn arithmetic t none)))

@[inherit_doc sortedLocationsIn]
def sortedLocations (t : Transport) : List (Location α) :=
  sortedByLoad (d.locationsOf (d.offered t none))

/-- The location of a name. -/
def locationIn? (name : String) : Except Overflow (Option (Location α)) := do
  .ok ((← d.locationsIn arithmetic).find? (·.name == name))

@[inherit_doc locationIn?]
def location? (name : String) : Option (Location α) := d.locations.find? (·.name == name)

/-- The load of a location, counting the gateways with a transport. -/
def loadOfIn (name : String) (t : Transport) : Except Overflow Load := do
  let ls : List (Location α) ←
    d.locationsOfIn arithmetic (← d.offeredIn arithmetic t (some name))
  .ok (firstLoad ls)

@[inherit_doc loadOfIn]
def loadOf (name : String) (t : Transport) : Load :=
  firstLoad (d.locationsOf (d.offered t (some name)) : List (Location α))

end Directory

end VpnDirectory
