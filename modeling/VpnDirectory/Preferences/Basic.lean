import VpnDirectory.Collection.StringSet
import VpnDirectory.Files
import VpnDirectory.Net.Address
import VpnDirectory.Net.Port
import VpnDirectory.Transport

/-!
# The preferences of a client

`Preferences` steer which gateways are selected and how their profiles are drawn up.
`Preferences.validate` says what is wrong with preferences that came from a file.
-/

namespace VpnDirectory

/-- A bridge that is used instead of the one that a gateway announces. -/
structure Pinning where
  ip : String := ""
  port : String := ""
  cert : String := ""
  /-- Dial the bridge over KCP. -/
  usesKcp : Bool := false
  deriving DecidableEq, Repr

/-- Are address, port and certificate all there? -/
def Pinning.isComplete (p : Pinning) : Bool := p.ip ≠ "" && p.port ≠ "" && p.cert ≠ ""

/-- What a client prefers. -/
structure Preferences where
  /-- Select gateways of this location only. -/
  preferredCity : Option String := none
  /-- Put the remotes that use UDP first. -/
  prefersUdp : Bool := false
  /-- Go through obfs4. -/
  usesPluggable : Bool := false
  /-- Dial bridges without the dispatcher. -/
  dialsBridges : Bool := false
  /-- Apps that do not use the tunnel. -/
  excludedApps : StringSet := .empty
  /-- Always select this host. -/
  pinnedGateway : Option String := none
  pinning : Option Pinning := none
  deriving DecidableEq

/-- What is wrong with a pinning. -/
inductive PinningError
  | incomplete
  | badAddress (ip : String)
  | badPort (port : String)
  deriving DecidableEq, Repr

/-- The fault in words. -/
def PinningError.message : PinningError → String
  | incomplete => "ip, port and cert are required"
  | badAddress ip => "invalid ip " ++ ip
  | badPort port => "invalid port " ++ port

/-- Why preferences cannot be used. -/
inductive PreferencesError
  | unread (e : ReadFailure)
  | malformed
  | unknownFormat
  | badPinning (e : PinningError)
  | emptyPinnedGateway
  deriving DecidableEq, Repr

/-- The fault in words; a text that cannot be read has no words of its own. -/
def PreferencesError.message : PreferencesError → String
  | unread e => "IO error: " ++ e.message
  | malformed => "Parse error"
  | unknownFormat => "Unsupported config format"
  | badPinning e => "Invalid obfuscation pinning: " ++ e.message
  | emptyPinnedGateway => "Pinned gateway host is empty"

namespace Preferences

variable (p : Preferences)

/-- The transport that gateways are selected for. -/
def transport : Transport := if p.usesPluggable then .obfs4 else .openvpn

/-- The pinning that is in force: a complete one, when bridges are dialled without the
dispatcher. -/
def activePinning : Option Pinning := p.pinning.filter fun q => p.dialsBridges && q.isComplete

/-- A pinning has to be complete and to name an address and a port. -/
def checkPinning (q : Pinning) : Except PinningError Unit :=
  if !q.isComplete then .error .incomplete
  else if !Address.isAddress q.ip then .error (.badAddress q.ip)
  else if (Port.ofText? q.port).isNone then .error (.badPort q.port)
  else .ok ()

/-- Checks the pinning and then the pinned host, which may not be blank. -/
def validate : Except PreferencesError Unit := do
  if let some q := p.pinning then
    (checkPinning q).mapError .badPinning
  if let some host := p.pinnedGateway then
    if Text.isAllBlank host then throw .emptyPinnedGateway

end Preferences

end VpnDirectory
