import VpnDirectory.Document.GatewayEntry
import VpnDirectory.Document.Secrets
import VpnDirectory.Document.ServerOrder
import VpnDirectory.Document.Service
import VpnDirectory.Files

/-!
# Providers

`Provider` holds the documents that a provider publishes and answers what can be said before any
gateway is built: whether one of them offers a pluggable or an experimental transport.

`Provider.load` reads the documents from files.
-/

namespace VpnDirectory

/-- Why a provider cannot be loaded. -/
inductive ProviderError
  | unread (path : String) (e : ReadFailure)
  | json (e : Json.ReadError)

namespace ProviderError

/-- The error in words; only the form of a document has no words of its own. -/
def message : ProviderError → String
  | unread path e => "IO error: " ++ path ++ ": " ++ e.message
  | json .malformed => "JSON error"
  | json (.shape e) => "JSON error: " ++ e.message

end ProviderError

/-- The documents of a provider. -/
structure Provider where
  service : Service := {}
  order : Option ServerOrder := none
  secrets : Secrets := {}

namespace Provider

/-- Reads a file of a provider. -/
def readFile (files : Files) (path : String) : Except ProviderError String :=
  (files path).mapError (.unread path)

/-- Loads the documents. The service document and the secrets are both read before either is
looked into; the order of the server comes last. -/
def load (files : Files) (service secrets : String) (order : Option String) :
    Except ProviderError Provider := do
  let serviceText ← readFile files service
  let secretsText ← readFile files secrets
  let service ← (Service.parse serviceText).mapError .json
  let secrets ← (Secrets.parse secretsText).mapError .json
  match order with
  | none => .ok { service, secrets }
  | some path => do
    let order ← (ServerOrder.parse (← readFile files path)).mapError .json
    .ok { service, order, secrets }

variable (p : Provider)

/-- Does the provider declare more than one location? -/
def hasSeveralLocations : Bool := 1 < p.service.locations.length

/-- Does a gateway offer one of the pairs? -/
def offersAny (allowed : List Pair) : Bool :=
  p.service.gateways.any fun entry => Capability.offersAny entry allowed

/-- Does a gateway offer a pluggable transport that the client can use? -/
def offersPluggable (dialsBridges : Bool) : Bool :=
  p.offersAny (Capability.pluggablePairs dialsBridges)

/-- Does a gateway offer an experimental transport? -/
def offersExperimental : Bool := p.offersAny Capability.experimentalPairs

end Provider

end VpnDirectory
