import VpnDirectory.Clock
import VpnDirectory.Document.ServerOrder
import VpnDirectory.Document.Service
import VpnDirectory.Load
import VpnDirectory.Tunnel.Blueprint

/-!
# Gateways

`Gateway.build` makes a gateway of an entry of the service document: its place, its address and the
profiles that lead to it. A load comes later, if a server reports one.
-/

namespace VpnDirectory

/-- A gateway with its profiles. -/
structure Gateway where
  /-- The location in words. -/
  name : String
  host : String
  address : String
  timezone : Int
  version : Int
  profiles : Profiles
  load : Option ReportedLoad := none

/-- Why an entry gives no gateway. -/
inductive GatewayError
  | entry (e : Json.ShapeError)
  | config (e : ConfigError)

/-- The error in words. -/
def GatewayError.message : GatewayError → String
  | entry e => "Invalid gateway entry: " ++ e.message
  | config e => "Config error: " ++ e.message

namespace Gateway

/-- Makes a gateway of an entry. Its profiles bear the name of its location, its address and the
apps that do not use the tunnel. -/
def build (service : Service) (secrets : Secrets) (entry : Json) (preferences : Preferences) :
    Except GatewayError Gateway := do
  let entry ← (GatewayEntry.ofJson entry).mapError .entry
  let location := service.location entry.location
  let blueprint ← (Blueprint.make service.directives secrets entry service.version
    preferences).mapError .config
  let profiles ← blueprint.profiles.mapError .config
  .ok {
    name := location.name
    host := entry.host
    address := entry.ipAddress
    timezone := location.timezone
    version := service.version
    profiles := profiles.map fun p => { p with
      name := location.name
      gatewayIp := entry.ipAddress
      excludedApps := preferences.excludedApps } }

variable (g : Gateway)

/-- The profile for a transport. -/
def profile? (t : Transport) : Option Profile := g.profiles.get? t

/-- Is there a profile for the transport? -/
def supports (t : Transport) : Bool := (g.profile? t).isSome

/-- The transports that there are profiles for, in order. -/
def transports : List Transport := g.profiles.transports

/-- The gateway with a load. -/
def withLoad (load : ReportedLoad) : Gateway := { g with load := some load }

section Fullness

variable {α : Type} [LoadNumber α]

/-- How full the gateway is: as reported, or else as estimated for a client. -/
def fullnessIn (arithmetic : Arithmetic) (client : Int) : Except Overflow α :=
  match g.load with
  | some load => .ok (LoadNumber.ofDouble load.fullness)
  | none => Clock.estimateIn arithmetic client g.timezone

/-- How full the gateway is if differences wrap around. -/
def fullness (client : Int) : α :=
  match g.load with
  | some load => LoadNumber.ofDouble load.fullness
  | none => Clock.estimate client g.timezone

end Fullness

/-- Does the gateway report that it is overloaded? -/
def isOverloaded : Bool := g.load.any (·.overload)

end Gateway

end VpnDirectory
