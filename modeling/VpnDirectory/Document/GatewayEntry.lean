import VpnDirectory.Capability

/-!
# Gateway entries

`GatewayEntry` is what a provider publishes about one gateway. Its capabilities are kept as they
are, because how they are read depends on the version of the service document: as a matrix from
version 3 on, `GatewayEntry.matrix`, and as flat lists before, `GatewayEntry.flat`.
-/

namespace VpnDirectory

/-- The flat capabilities of early versions. -/
structure FlatCapabilities where
  ports : List String := []
  protocols : List String := []
  deriving DecidableEq, Repr

namespace FlatCapabilities

/-- The fields in order. -/
def fieldNames : List String := ["ports", "protocols"]

/-- Reads flat capabilities; a value of another shape has none. -/
def ofJson (v : Json) : FlatCapabilities :=
  match v.record fieldNames "capabilities" with
  | .error _ => {}
  | .ok get => {
      ports := Lenient.scalars (get "ports")
      protocols := Lenient.texts (get "protocols") }

end FlatCapabilities

/-- What a provider publishes about one gateway. -/
structure GatewayEntry where
  host : String
  ipAddress : String
  /-- Empty if there is no address of version 6. -/
  ipAddress6 : String
  /-- The key of a location. -/
  location : String
  capabilities : Option Json

namespace GatewayEntry

/-- The fields in order. -/
def fieldNames : List String := ["host", "ip_address", "ip_address6", "location", "capabilities"]

/-- Null counts as a missing value. -/
def dropNull : Option Json → Option Json
  | some .null => none
  | v => v

/-- Reads an entry; all of its fields are lenient. -/
def ofJson (v : Json) : Except Json.ShapeError GatewayEntry := do
  let get ← v.record fieldNames "struct GatewayDescriptor"
  .ok {
    host := Lenient.text (get "host")
    ipAddress := Lenient.text (get "ip_address")
    ipAddress6 := Lenient.text (get "ip_address6")
    location := Lenient.text (get "location")
    capabilities := dropNull (get "capabilities") }

variable (g : GatewayEntry)

/-- The capability matrix. -/
def matrix : Except CapabilityError (List TransportEntry) := Capability.matrix g.capabilities

/-- The flat capabilities of early versions. -/
def flat : FlatCapabilities := (g.capabilities.map FlatCapabilities.ofJson).getD {}

/-- The addresses that are there, version 6 first. -/
def addresses : List String := [g.ipAddress6, g.ipAddress].filter (· ≠ "")

end GatewayEntry

end VpnDirectory
