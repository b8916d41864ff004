import VpnDirectory.Preferences.Json
import VpnDirectory.Toml.Printer
import VpnDirectory.Toml.Reader

/-!
# Preferences in TOML

`Preferences.ofTomlText` reads preferences and `Preferences.toTomlText` writes them. A pinning may
be written as a table or, like any record, as an array of its fields in order.

The extension of a file's name says how preferences are written in it. `Preferences.load` reads
and checks them.
-/

namespace VpnDirectory

namespace Pinning

/-- Stores the value of a field, if there is one and it is of the right type. -/
def store {α : Type} (v : Option Toml.Value) (read : Toml.Value → Option α) (p : Pinning)
    (set : α → Pinning) : Option Pinning :=
  match v with
  | none => some p
  | some v => (read v).map set

/-- The pinning with the given fields. -/
def ofFields (ip port cert usesKcp : Option Toml.Value) : Option Pinning := do
  let p ← store ip Toml.Value.text? {} fun v => { ip := v }
  let p ← store port Toml.Value.text? p fun v => { p with port := v }
  let p ← store cert Toml.Value.text? p fun v => { p with cert := v }
  store usesKcp Toml.Value.bool? p fun v => { p with usesKcp := v }

/-- The pinning in the entries of a table. -/
def ofEntries (es : Toml.Entries) : Option Pinning :=
  ofFields (es.get? "ip") (es.get? "port") (es.get? "cert") (es.get? "use_kcp")

/-- Reads a pinning. A date counts as a table without known entries. Tables in double brackets are
an array whose items are no fields, so they are refused. -/
def ofToml : Toml.Value → Option Pinning
  | .table _ es => ofEntries es
  | .inline es => ofEntries es
  | .array items => ofFields items[0]? items[1]? items[2]? items[3]?
  | .dateTime _ => some {}
  | _ => none

/-- The lines of a pinning. -/
def toTomlChars (p : Pinning) : List Char :=
  Toml.writeHeader "obfuscation_pinning" ++
    Toml.writeAssignment "ip" (Toml.writeString p.ip) ++
    Toml.writeAssignment "port" (Toml.writeString p.port) ++
    Toml.writeAssignment "cert" (Toml.writeString p.cert) ++
    Toml.writeAssignment "use_kcp" (Toml.writeBool p.usesKcp)

end Pinning

namespace Preferences

/-- Reads an entry if it is there; one of the wrong type spoils the document. -/
def entry {α : Type} (es : Toml.Entries) (key : String) (read : Toml.Value → Option α) :
    Option (Option α) :=
  match es.get? key with
  | none => some none
  | some v => (read v).map some

/-- The preferences in the entries of a document. -/
def ofEntries (es : Toml.Entries) : Option Preferences := do
  let preferredCity ← entry es "preferred_city" Toml.Value.text?
  let prefersUdp ← entry es "prefer_udp" Toml.Value.bool?
  let usesPluggable ← entry es "use_pluggable_transports" Toml.Value.bool?
  let dialsBridges ← entry es "use_obfs_vpn" Toml.Value.bool?
  let excludedApps ← entry es "excluded_apps" Toml.Value.texts?
  let pinnedGateway ← entry es "pinned_gateway" Toml.Value.text?
  let pinning ← entry es "obfuscation_pinning" Pinning.ofToml
  some {
    preferredCity
    prefersUdp := prefersUdp.getD false
    usesPluggable := usesPluggable.getD false
    dialsBridges := dialsBridges.getD false
    excludedApps := .ofList (excludedApps.getD [])
    pinnedGateway
    pinning }

/-- Reads preferences. -/
def ofTomlText (text : String) : Except PreferencesError Preferences :=
  match (Toml.parse text).bind ofEntries with
  | some p => .ok p
  | none => .error .malformed

/-- The line of an entry that is left out if it has no value. -/
def optionalLine (key : String) (v : Option String) : List Char :=
  match v with
  | some v => Toml.writeAssignment key (Toml.writeString v)
  | none => []

variable (p : Preferences)

/-- The lines of the preferences apart from the pinning. -/
def tomlLines : List Char :=
  optionalLine "preferred_city" p.preferredCity ++
    Toml.writeAssignment "prefer_udp" (Toml.writeBool p.prefersUdp) ++
    Toml.writeAssignment "use_pluggable_transports" (Toml.writeBool p.usesPluggable) ++
    Toml.writeAssignment "use_obfs_vpn" (Toml.writeBool p.dialsBridges) ++
    Toml.writeAssignment "excluded_apps" (Toml.writeStrings p.excludedApps.toList) ++
    optionalLine "pinned_gateway" p.pinnedGateway

/-- Writes preferences; a pinning is a table of its own after an empty line. -/
def toTomlText : String :=
  .ofList (p.tomlLines ++
    match p.pinning with
    | some q => '\n' :: q.toTomlChars
    | none => [])

/-! ### Files -/

/-- Loads preferences from a file. -/
def load (files : Files) (path : String) : Except PreferencesError Preferences := do
  let read ← match extension (fileName path) with
    | "toml" => .ok ofTomlText
    | "json" => .ok ofJsonText
    | _ => .error .unknownFormat
  let text ← (files path).mapError .unread
  let p ← read text
  p.validate
  .ok p

end Preferences

end VpnDirectory
