import VpnDirectory.Document.GatewayEntry
import VpnDirectory.Document.Secrets
import VpnDirectory.Preferences.Basic
import VpnDirectory.Tunnel.Profile

/-!
# Drawing up the profiles of a gateway

A `Blueprint` holds all that goes into the profiles of one gateway. `Blueprint.text` is the
configuration text for a transport, four parts one after another:

1. the general directives of the provider, then `client`;
2. the remotes of the gateway, `Blueprint.remotes`, and for pluggable transports a route to it;
3. directives that every client has;
4. the certificates and the key as inline blocks.

`Blueprint.profile` reads the text back into a profile. `Blueprint.profiles` has the profiles that
the gateway ends up with: plain OpenVPN has to succeed, while obfs4 is left out if it does not.
-/

namespace VpnDirectory

/-- All that goes into the profiles of one gateway. -/
structure Blueprint where
  /-- The general directives of the provider. -/
  general : Json.Members
  secrets : Secrets
  entry : GatewayEntry
  version : Int
  preferences : Preferences
  /-- The capability matrix; early versions have none. -/
  matrix : List TransportEntry

/-- The profiles of a gateway. -/
structure Profiles where
  openvpn : Profile
  obfs4 : Option Profile
  deriving DecidableEq

namespace Profiles

variable (ps : Profiles)

/-- The profile for a transport. -/
def get? : Transport → Option Profile
  | .openvpn => some ps.openvpn
  | .obfs4 => ps.obfs4
  | .obfs4Hop => none

/-- The transports that there are profiles for, in order. -/
def transports : List Transport := Transport.all.filter fun t => (ps.get? t).isSome

/-- Changes every profile. -/
def map (f : Profile → Profile) : Profiles := ⟨f ps.openvpn, ps.obfs4.map f⟩

end Profiles

namespace Blueprint

/-- The first version of the service document with capability matrices. -/
def matrixVersion : Int := 3

/-- Collects what goes into the profiles of a gateway; the matrix has to be readable. -/
def make (general : Json.Members) (secrets : Secrets) (entry : GatewayEntry) (version : Int)
    (preferences : Preferences) : Except ConfigError Blueprint := do
  let matrix ← if matrixVersion ≤ version then entry.matrix.mapError (.capabilities version)
    else .ok []
  .ok { general, secrets, entry, version, preferences, matrix }

variable (b : Blueprint)

/-- The first entry of the matrix for a transport. -/
def entryFor? (t : Transport) : Option TransportEntry := b.matrix.find? (·.isFor t)

/-- Does the gateway announce obfs4? -/
def announcesObfs4 : Bool := (b.entryFor? .obfs4).isSome

/-! ### General directives -/

/-- The arguments of a general directive: the words of a text, or any other value in its compact
form. -/
def arguments : Json → List Char
  | .text s => [' '].intercalate (Text.words s.toList)
  | v => v.compactChars

/-- The line of a general directive. -/
def generalLine (member : String × Json) : String :=
  match arguments member.2 with
  | [] => member.1
  | args => member.1 ++ " " ++ .ofList args

/-- The general directives of the provider, then `client`. -/
def generalLines : List String := b.general.map generalLine ++ ["client"]

/-! ### Remotes -/

/-- The line of a remote. -/
def remoteLine (address port : String) (protocol : Option String) : String :=
  "remote " ++ address ++ " " ++ port ++
    match protocol with
    | some protocol => " " ++ protocol
    | none => ""

/-- The texts among these that are ports. -/
def usablePorts (ports : List String) : List String :=
  ports.filter fun port => (Port.ofText? port).isSome

/-- The remotes of early versions: for each port every protocol. -/
def flatRemotes : List String :=
  if b.entry.ipAddress = "" then []
  else (usablePorts b.entry.flat.ports).flatMap fun port =>
    b.entry.flat.protocols.map fun protocol =>
      remoteLine b.entry.ipAddress port (some protocol)

/-- The remotes of some protocols: for each protocol every port, and for each port every
address. -/
def remotesOf (addresses ports protocols : List String) : List String :=
  protocols.flatMap fun protocol => ports.flatMap fun port =>
    addresses.map fun address => remoteLine address port (some protocol)

/-- The plain remotes of a matrix: for each port every protocol, and for each protocol every
address; with UDP preferred, all remotes of `udp` first and the others after them. -/
def openvpnRemotes : List String :=
  match b.entryFor? .openvpn with
  | none => []
  | some e =>
    let addresses := b.entry.addresses
    let ports := usablePorts e.ports
    if b.preferences.prefersUdp then
      remotesOf addresses ports (e.protocols.filter (· == "udp")) ++
        remotesOf addresses ports (e.protocols.filter (· != "udp"))
    else
      ports.flatMap fun port => e.protocols.flatMap fun protocol =>
        addresses.map fun address => remoteLine address port (some protocol)

/-- The line of the route that keeps the connection to a gateway outside the tunnel. -/
def routeLine (address : String) : String := "route " ++ address ++ " 255.255.255.255 net_gateway"

/-- The line of the remote of an obfuscated tunnel: the dispatcher, or with bridges dialled without
it the pinned or the announced bridge. -/
def bridgeLine (address port : String) : String :=
  if b.preferences.dialsBridges then
    match b.preferences.activePinning with
    | some pinning => remoteLine pinning.ip pinning.port none
    | none => remoteLine address port none
  else remoteLine Dispatcher.ip Dispatcher.port.text (some "tcp")

/-- The lines of an obfuscated tunnel, if the gateway has an address of version 4, TCP and a
port. -/
def obfs4Remotes : List String :=
  match b.entryFor? .obfs4 with
  | none => []
  | some e =>
    match b.entry.addresses.find? Address.isIPv4, e.firstPort with
    | some address, some port =>
      if e.hasTcp then [routeLine address, b.bridgeLine address port] else []
    | _, _ => []

/-- The lines that depend on the gateway. -/
def remotes (t : Transport) : List String :=
  if b.version < matrixVersion then b.flatRemotes
  else if t.isPluggable then b.obfs4Remotes
  else b.openvpnRemotes

/-! ### Texts and profiles -/

/-- Directives that every client has. -/
def clientLines : List String := ["remote-cert-tls server", "persist-tun", "auth-retry nointeract"]

/-- An inline block. -/
def blockLines (tag body : String) : List String := ["<" ++ tag ++ ">", body, "</" ++ tag ++ ">"]

/-- The certificates and the key. -/
def secretLines : List String :=
  blockLines "ca" b.secrets.caCert ++ blockLines "key" b.secrets.privateKey ++
    blockLines "cert" b.secrets.vpnCertificate

/-- Lines as one text. -/
def joinLines (lines : List String) : String := .ofList (Text.unlines (lines.map String.toList))

/-- The configuration text for a transport. Every part takes a line at least. -/
def text (t : Transport) : String :=
  joinLines [joinLines b.generalLines, joinLines (b.remotes t), joinLines clientLines,
    joinLines b.secretLines]

/-- What the obfuscation client is told. A pinning in force replaces address, port and certificate
of the gateway; without one they all have to be there. -/
def obfuscation : Except ConfigError ObfuscationOptions := do
  let some e := b.entryFor? .obfs4 | throw (.missingTransportOptions .obfs4)
  let options := e.options.getD {}
  if let some pinning := b.preferences.activePinning then
    return {
      gatewayIp := pinning.ip
      port := ← Port.ofText pinning.port
      cert := pinning.cert
      iatMode := options.iatMode.getD "0"
      usesKcp := pinning.usesKcp
      transport := .obfs4 }
  if b.entry.ipAddress = "" then throw (.missingField "ip_address")
  let some iatMode := options.iatMode | throw (.missingField "iatMode")
  let some cert := options.cert | throw (.missingField "cert")
  let some port := e.firstPort | throw (.missingField "ports")
  return {
    gatewayIp := b.entry.ipAddress
    port := ← Port.ofText port
    cert
    iatMode
    usesKcp := false
    transport := .obfs4 }

/-- The profile for a transport, read back from its text. -/
def profile (t : Transport) : Except ConfigError Profile := do
  let (config, read) := Config.feed {} (b.text t)
  read
  let options ← if t.isPluggable then some <$> b.obfuscation else .ok none
  config.profile options t

/-- The profiles of the gateway. -/
def profiles : Except ConfigError Profiles := do
  let openvpn ← b.profile .openvpn
  let obfs4 := if b.announcesObfs4 then (b.profile .obfs4).toOption else none
  .ok ⟨openvpn, obfs4⟩

end Blueprint

end VpnDirectory
