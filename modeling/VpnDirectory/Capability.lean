import VpnDirectory.Document.Lenient
import VpnDirectory.Text.Basic
import VpnDirectory.Transport

/-!
# Capability matrices

A gateway says what it offers in a matrix: one `TransportEntry` for each transport, with protocols,
ports and, for obfuscated transports, options.

* `Capability.matrix` reads the matrix from the capabilities of a gateway, all or nothing: each
  entry has to name its type, while its other fields are lenient;
* `Capability.offered` are the pairs that a matrix offers;
* `Capability.offersAny` asks whether a gateway offers one of a list of pairs, such as those that
  count as pluggable transports, `pluggablePairs`, or as experimental, `experimentalPairs`.
-/

namespace VpnDirectory

/-- Why a name or a matrix cannot be read. -/
inductive CapabilityError
  | missingCapabilities
  | missingTransports
  | malformed (cause : Json.ShapeError)
  | unknownTransport (name : String)
  | unknownProtocol (name : String)

namespace CapabilityError

/-- The error in words. -/
def message : CapabilityError → String
  | missingCapabilities => "Gateway has no capabilities object"
  | missingTransports => "Capabilities have no transport array"
  | malformed cause => "Malformed transport entry: " ++ cause.message
  | unknownTransport name => "Unknown transport type: " ++ name
  | unknownProtocol name => "Unknown transport protocol: " ++ name

end CapabilityError

/-- The transport of a name, which has to be known. -/
def Transport.ofName (s : String) : Except CapabilityError Transport :=
  match Transport.ofName? s with
  | some t => .ok t
  | none => .error (.unknownTransport s)

/-- The protocol of a name, which has to be known. -/
def Protocol.ofName (s : String) : Except CapabilityError Protocol :=
  match Protocol.ofName? s with
  | some p => .ok p
  | none => .error (.unknownProtocol s)

/-- What an obfuscated transport needs to be dialled. -/
structure TransportOptions where
  /-- The certificate of the bridge. -/
  cert : Option String := none
  /-- The mode of the times between packets. -/
  iatMode : Option String := none
  deriving DecidableEq, Repr

/-- One entry of a capability matrix. -/
structure TransportEntry where
  /-- `none` for a type that is not known. -/
  transport : Option Transport
  /-- As published, known or not. -/
  protocols : List String
  /-- As published, port numbers or not. -/
  ports : List String
  options : Option TransportOptions
  deriving DecidableEq, Repr

namespace TransportOptions

/-- The fields in order. -/
def fieldNames : List String := ["cert", "iatMode"]

/-- Reads options; a certificate that is no text spoils them. -/
def ofJson? (v : Json) : Option TransportOptions :=
  match v.record fieldNames "options" with
  | .error _ => none
  | .ok get =>
    let iatMode := Lenient.scalar (get "iatMode")
    match get "cert" with
    | none => some { iatMode }
    | some .null => some { iatMode }
    | some (.text cert) => some { cert := some cert, iatMode }
    | some _ => none

end TransportOptions

namespace TransportEntry

/-- The fields in order. -/
def fieldNames : List String := ["type", "protocols", "ports", "options"]

/-- The name that stands for an entry in messages. -/
def structName : String := "struct TransportDescriptor"

/-- The name in the field `type`, which has to be a text. -/
def typeName (v : Json) (get : String → Option Json) : Except Json.ShapeError String :=
  match get "type" with
  | some (.text name) => .ok name
  | some other => .error (.wrongType other.shape "a string")
  | none => .error (if v.isObject then .missingField "type"
      else .tooShort 0 (structName ++ " with 4 elements"))

/-- Reads an entry. -/
def ofJson (v : Json) : Except Json.ShapeError TransportEntry := do
  let get ← v.fields fieldNames structName
  let name ← typeName v get
  v.checkLength fieldNames
  .ok {
    transport := Transport.ofName? name
    protocols := Lenient.texts (get "protocols")
    ports := Lenient.scalars (get "ports")
    options := (get "options").bind TransportOptions.ofJson? }

variable (e : TransportEntry)

/-- Is the entry about this transport? -/
def isFor (t : Transport) : Bool := e.transport == some t

/-- The protocols that are known. -/
def knownProtocols : List Protocol := e.protocols.filterMap Protocol.ofName?

/-- Does the entry offer the transport over the protocol? -/
def supports (t : Transport) (p : Protocol) : Bool := e.isFor t && e.knownProtocols.contains p

/-- The pairs that the entry offers, in the order of its protocols. -/
def offered : List Pair :=
  match e.transport with
  | some t => e.knownProtocols.map fun p => (t, p)
  | none => []

/-- Does one of the published protocols name TCP in any form, such as `tcp4`? -/
def hasTcp : Bool := e.protocols.any fun p => Text.occursIn "tcp".toList p.toList

/-- The first published port. -/
def firstPort : Option String := e.ports.head?

end TransportEntry

namespace Capability

/-- Reads the matrix in the capabilities of a gateway. -/
def matrix (capabilities : Option Json) : Except CapabilityError (List TransportEntry) :=
  match capabilities with
  | some (.object ms) =>
    match Json.Members.get? ms "transport" with
    | none => .error .missingTransports
    | some (.array xs) => (xs.mapM TransportEntry.ofJson).mapError .malformed
    | some v => .error (.malformed (.wrongType v.shape "a sequence"))
  | _ => .error .missingCapabilities

/-- Reads the matrix of a gateway entry as it was published. -/
def matrixOf (entry : Json) : Except CapabilityError (List TransportEntry) :=
  matrix (entry.member? "capabilities")

/-- The pairs that a matrix offers, entry by entry. -/
def offered (entries : List TransportEntry) : List Pair := entries.flatMap (·.offered)

/-- Does a gateway entry offer the transport over the protocol? A matrix that cannot be read offers
nothing. -/
def supports (entry : Json) (t : Transport) (p : Protocol) : Bool :=
  match matrixOf entry with
  | .ok entries => entries.any (·.supports t p)
  | .error _ => false

/-- Does a gateway entry offer one of the pairs? -/
def offersAny (entry : Json) (allowed : List Pair) : Bool :=
  match matrixOf entry with
  | .ok entries => (offered entries).any allowed.contains
  | .error _ => false

/-- The pairs that count as pluggable transports. A client that dials bridges itself can use more
of them than one that goes through the dispatcher. -/
def pluggablePairs (dialsBridges : Bool) : List Pair :=
  if dialsBridges then [(.obfs4, .tcp), (.obfs4, .kcp), (.obfs4Hop, .tcp), (.obfs4Hop, .kcp)]
  else [(.obfs4, .tcp)]

/-- The pairs that are experimental. -/
def experimentalPairs : List Pair := [(.obfs4, .kcp), (.obfs4Hop, .tcp), (.obfs4Hop, .kcp)]

end Capability

end VpnDirectory
