import VpnDirectory.Document.Lenient
import VpnDirectory.Json.Reader
import VpnDirectory.Number.Double

/-!
# The order that a server gives

The geo service of a provider answers with hosts, best first, either with what each of them reports
about its load or by name alone. `ServerOrder.ofJson?` reads such an answer.
-/

namespace VpnDirectory

/-- What a gateway reports about its load. -/
structure ReportedLoad where
  /-- From zero, idle, to one, full. -/
  fullness : Double := .ofFloat 0
  overload : Bool := false

/-- A host with its load. -/
structure LoadedHost where
  host : String
  load : ReportedLoad

/-- An order of hosts, best first. -/
inductive ServerOrder
  | byLoad (hosts : List LoadedHost)
  | byName (hosts : List String)

namespace LoadedHost

/-- Reads a host with its load: an object in which the host is a text and the rest is lenient. -/
def ofJson? (v : Json) : Option LoadedHost :=
  match v.member? "host" with
  | some (.text host) => some {
      host
      load := {
        fullness := .ofFloat (Lenient.real (v.member? "fullness"))
        overload := Lenient.bool (v.member? "overload") } }
  | _ => none

end LoadedHost

namespace ServerOrder

/-- Reads an answer. Hosts with loads win over hosts by name, even if there are none of them. -/
def ofJson? (v : Json) : Option ServerOrder :=
  match v.member? "sorted_gateways" with
  | some sorted => some (.byLoad ((Lenient.items (some sorted)).filterMap LoadedHost.ofJson?))
  | none =>
    match v.member? "gateways" with
    | some (.array hosts) => some (.byName (hosts.filterMap Json.text?))
    | _ => none

/-- Reads the text of an answer, which may hold no order. -/
def parse (text : String) : Except Json.ReadError (Option ServerOrder) := do
  .ok (ofJson? (← Json.parse text))

end ServerOrder

end VpnDirectory
