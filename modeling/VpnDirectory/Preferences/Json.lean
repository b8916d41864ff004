import VpnDirectory.Json.Record
import VpnDirectory.Preferences.Basic

/-!
# Preferences in JSON

`Preferences.ofJsonText` reads preferences and `Preferences.toJsonText` writes them. Reading is
strict: a field of the wrong type spoils the document, a field that is not known does not.
-/

namespace VpnDirectory

namespace Pinning

/-- The fields in order. -/
def fields : List (Json.Field Pinning) := [
  .of "ip" Json.Reader.text fun p v => { p with ip := v },
  .of "port" Json.Reader.text fun p v => { p with port := v },
  .of "cert" Json.Reader.text fun p v => { p with cert := v },
  .of "use_kcp" Json.Reader.bool fun p v => { p with usesKcp := v }]

/-- Reads a pinning. -/
def reader : Json.Reader Pinning := Json.readRecord fields "a pinning" {}

/-- The pinning as a value. -/
def toJson (p : Pinning) : Json :=
  .object [("ip", .text p.ip), ("port", .text p.port), ("cert", .text p.cert),
    ("use_kcp", .bool p.usesKcp)]

end Pinning

namespace Preferences

/-- The fields in order. -/
def fields : List (Json.Field Preferences) := [
  .of "preferred_city" (.optional Json.Reader.text) fun p v => { p with preferredCity := v },
  .of "prefer_udp" Json.Reader.bool fun p v => { p with prefersUdp := v },
  .of "use_pluggable_transports" Json.Reader.bool fun p v => { p with usesPluggable := v },
  .of "use_obfs_vpn" Json.Reader.bool fun p v => { p with dialsBridges := v },
  .of "excluded_apps" Json.Reader.texts fun p v => { p with excludedApps := .ofList v },
  .of "pinned_gateway" (.optional Json.Reader.text) fun p v => { p with pinnedGateway := v },
  .of "obfuscation_pinning" (.optional Pinning.reader) fun p v => { p with pinning := v }]

/-- Reads preferences. -/
def ofJsonText (text : String) : Except PreferencesError Preferences :=
  (Json.parseRecord fields "preferences" {} text).mapError fun _ => .malformed

/-- A member that is left out if it has no value. -/
def optionalMember (key : String) (v : Option Json) : Json.Members :=
  match v with
  | some v => [(key, v)]
  | none => []

variable (p : Preferences)

/-- The preferences as a value. -/
def toJson : Json :=
  .object (optionalMember "preferred_city" (p.preferredCity.map .text) ++
    [("prefer_udp", .bool p.prefersUdp),
      ("use_pluggable_transports", .bool p.usesPluggable),
      ("use_obfs_vpn", .bool p.dialsBridges),
      ("excluded_apps", .array (p.excludedApps.toList.map .text))] ++
    optionalMember "pinned_gateway" (p.pinnedGateway.map .text) ++
    optionalMember "obfuscation_pinning" (p.pinning.map Pinning.toJson))

/-- Writes preferences on indented lines. -/
def toJsonText : String := p.toJson.pretty

end Preferences

end VpnDirectory
