import VpnDirectory.Preferences.Toml
import VpnDirectory.Proofs.Toml.Document

/-!
# Preferences read back from TOML

`Preferences.tomlEntries` are the entries of the document that `Preferences.toTomlText` writes: its
lines say them, and `Preferences.ofEntries` finds the preferences in them.

* `Preferences.parse_toTomlText` : the text is read as the entries.
* `Preferences.ofEntries_tomlEntries` : the entries hold the preferences.
* `Preferences.ofTomlText_toTomlText` : preferences are read back from their text.
-/

namespace VpnDirectory

open Toml (Entries Says)

/-! ### The table of a pinning -/

namespace Pinning

/-- The entries of a pinning. -/
def tomlEntries (p : Pinning) : Entries :=
  [("ip", .text p.ip), ("port", .text p.port), ("cert", .text p.cert), ("use_kcp", .bool p.usesKcp)]

variable (p : Pinning)

theorem says_toTomlChars : Says p.toTomlChars
    (.table ⟨[], "obfuscation_pinning"⟩ :: Toml.statements p.tomlEntries) := by
  have hheader := Toml.says_header "obfuscation_pinning" (by decide)
  have hip := Toml.says_assignment "ip" (by decide) (Toml.writes_writeString p.ip)
  have hport := Toml.says_assignment "port" (by decide) (Toml.writes_writeString p.port)
  have hcert := Toml.says_assignment "cert" (by decide) (Toml.writes_writeString p.cert)
  have hkcp := Toml.says_assignment "use_kcp" (by decide) (Toml.writes_writeBool p.usesKcp)
  exact (((hheader.append hip).append hport).append hcert).append hkcp

theorem ofToml_tomlEntries : ofToml (.table .header p.tomlEntries) = some p := rfl

end Pinning

namespace Preferences

/-! ### The entries of preferences -/

/-- An entry that is left out if it has no value. -/
def optionalEntry (key : String) (v : Option Toml.Value) : Entries :=
  match v with
  | some v => [(key, v)]
  | none => []

@[simp] theorem get?_optionalEntry (key other : String) (v : Option Toml.Value) :
    (optionalEntry key v).get? other = if other = key then v else none := by
  cases v with
  | none => exact (ite_self none).symm
  | some v => exact Entries.get?_cons key v []

variable (p : Preferences)

/-- The entries apart from the pinning. -/
def rootEntries : Entries :=
  optionalEntry "preferred_city" (p.preferredCity.map .text) ++
    [("prefer_udp", .bool p.prefersUdp),
      ("use_pluggable_transports", .bool p.usesPluggable),
      ("use_obfs_vpn", .bool p.dialsBridges),
      ("excluded_apps", .array (p.excludedApps.toList.map .text))] ++
    optionalEntry "pinned_gateway" (p.pinnedGateway.map .text)

/-- The entries of the document. -/
def tomlEntries : Entries :=
  p.rootEntries ++
    optionalEntry "obfuscation_pinning" (p.pinning.map fun q => .table .header q.tomlEntries)

/-- An entry is read if what is there is what is written for a value. -/
theorem entry_eq_some {α : Type} {es : Entries} {key : String} {read : Toml.Value → Option α}
    (write : α → Toml.Value) {o : Option α} (hread : ∀ a, read (write a) = some a)
    (h : es.get? key = o.map write) : entry es key read = some o := by
  rw [entry, h]
  cases o with
  | none => rfl
  | some a => exact congrArg (Option.map some) (hread a)

theorem texts?_array (ss : List String) : (Toml.Value.array (ss.map .text)).texts? = some ss := by
  induction ss with
  | nil => rfl
  | cons s ss ih =>
    rw [Toml.Value.texts?] at ih
    rw [Toml.Value.texts?, List.map_cons, List.mapM_cons, ih]
    rfl

/-- The entries hold the preferences. -/
theorem ofEntries_tomlEntries : ofEntries p.tomlEntries = some p := by
  have hcity : entry p.tomlEntries "preferred_city" Toml.Value.text? = some p.preferredCity :=
    entry_eq_some .text (fun _ => rfl) (by simp [tomlEntries, rootEntries])
  have hudp : entry p.tomlEntries "prefer_udp" Toml.Value.bool? = some (some p.prefersUdp) :=
    entry_eq_some .bool (fun _ => rfl) (by simp [tomlEntries, rootEntries])
  have hpluggable : entry p.tomlEntries "use_pluggable_transports" Toml.Value.bool? =
      some (some p.usesPluggable) :=
    entry_eq_some .bool (fun _ => rfl) (by simp [tomlEntries, rootEntries])
  have hbridges : entry p.tomlEntries "use_obfs_vpn" Toml.Value.bool? =
      some (some p.dialsBridges) :=
    entry_eq_some .bool (fun _ => rfl) (by simp [tomlEntries, rootEntries])
  have happs : entry p.tomlEntries "excluded_apps" Toml.Value.texts? =
      some (some p.excludedApps.toList) :=
    entry_eq_some (fun ss => .array (ss.map .text)) texts?_array
      (by simp [tomlEntries, rootEntries])
  have hhost : entry p.tomlEntries "pinned_gateway" Toml.Value.text? = some p.pinnedGateway :=
    entry_eq_some .text (fun _ => rfl) (by simp [tomlEntries, rootEntries])
  have hpinning : entry p.tomlEntries "obfuscation_pinning" Pinning.ofToml = some p.pinning :=
    entry_eq_some (fun q => .table .header q.tomlEntries) Pinning.ofToml_tomlEntries
      (by simp [tomlEntries, rootEntries])
  rw [ofEntries, hcity, hudp, hpluggable, hbridges, happs, hhost, hpinning]
  simp [StringSet.ofList_toList]

/-! ### The lines of preferences -/

theorem says_optionalLine (key : String) (hkey : Toml.isBareKey key) (v : Option String) :
    Says (optionalLine key v) (Toml.statements (optionalEntry key (v.map .text))) := by
  cases v with
  | none => exact Toml.says_nil
  | some s => exact Toml.says_assignment key hkey (Toml.writes_writeString s)

theorem says_tomlLines : Says p.tomlLines (Toml.statements p.rootEntries) := by
  have hcity := says_optionalLine "preferred_city" (by decide) p.preferredCity
  have hudp := Toml.says_assignment "prefer_udp" (by decide)
    (Toml.writes_writeBool p.prefersUdp)
  have hpluggable := Toml.says_assignment "use_pluggable_transports" (by decide)
    (Toml.writes_writeBool p.usesPluggable)
  have hbridges := Toml.says_assignment "use_obfs_vpn" (by decide)
    (Toml.writes_writeBool p.dialsBridges)
  have happs := Toml.says_assignment "excluded_apps" (by decide)
    (Toml.writes_writeStrings p.excludedApps.toList)
  have hhost := says_optionalLine "pinned_gateway" (by decide) p.pinnedGateway
  have hlines :=
    ((((hcity.append hudp).append hpluggable).append hbridges).append happs).append hhost
  simpa [tomlLines, rootEntries, Toml.statements] using hlines

theorem keys_optionalEntry (key : String) (v : Option Toml.Value) :
    ((optionalEntry key v).map Prod.fst).Sublist [key] := by
  cases v with
  | none => exact List.nil_sublist _
  | some v => exact List.Sublist.refl _

theorem keys_rootEntries : (p.rootEntries.map Prod.fst).Sublist (["preferred_city"] ++
    ["prefer_udp", "use_pluggable_transports", "use_obfs_vpn", "excluded_apps"] ++
    ["pinned_gateway"]) := by
  rw [rootEntries, List.map_append, List.map_append]
  exact ((keys_optionalEntry _ _).append (List.Sublist.refl _)).append (keys_optionalEntry _ _)

theorem head?_tomlLines (cs : List Char) : (p.tomlLines ++ cs).head? = some 'p' := by
  rw [tomlLines]
  cases p.preferredCity <;> rfl

/-- The text is read as the entries. -/
theorem parse_toTomlText : Toml.parse p.toTomlText = some p.tomlEntries := by
  have hnodup : (p.rootEntries.map Prod.fst).Nodup := p.keys_rootEntries.nodup (by decide)
  have hmark (cs : List Char) : (p.tomlLines ++ cs).head? ≠ some '\ufeff' := by
    rw [head?_tomlLines]
    decide
  rw [toTomlText, tomlEntries]
  cases p.pinning with
  | none =>
    have hsays := p.says_tomlLines.append Toml.says_nil
    rw [Toml.parse_of_says hsays (hmark _), List.append_nil, Toml.build_statements hnodup]
    exact congrArg some (List.append_nil _).symm
  | some q =>
    have hnew : "obfuscation_pinning" ∉ p.rootEntries.map Prod.fst := fun hmem =>
      absurd (p.keys_rootEntries.subset hmem) (by decide)
    have hkeys : (q.tomlEntries.map Prod.fst).Nodup := by
      show ["ip", "port", "cert", "use_kcp"].Nodup
      decide
    have hsays := p.says_tomlLines.append (Toml.says_newline.append q.says_toTomlChars)
    exact (Toml.parse_of_says hsays (hmark _)).trans
      (Toml.build_statements_table hnodup hnew hkeys)

/-- Preferences are read back from their text. -/
theorem ofTomlText_toTomlText : ofTomlText p.toTomlText = .ok p := by
  rw [ofTomlText, parse_toTomlText, Option.bind_some, ofEntries_tomlEntries]

end Preferences

end VpnDirectory
