import VpnDirectory.Proofs.Directory.Construction
import VpnDirectory.Proofs.Json.Fields

/-!
# Entries that are records

An entry of the service document is read as a record of five fields: an object, or an array of at
most as many items, which are the fields in order. No other value gives a gateway.

* `GatewayEntry.ofJson_eq_error_iff` : which values are refused as no entries.
* `GatewayEntry.ofJson_array` : an array is read as the object with its items under the names.
* `GatewayEntry.ofJson_object` : every object is read, and each field of the entry depends on the
  value under its own name alone.
* `Directory.entries_are_records` : the same for gateways, and where those of a directory come from.
-/

namespace VpnDirectory

/-! ### Reading entries -/

namespace GatewayEntry

/-- What an entry is called where it is missed. -/
def expected : String := "struct GatewayDescriptor"

theorem ofJson_eq_error_iff {v : Json} {e : Json.ShapeError} :
    ofJson v = .error e ↔ Json.NoRecord fieldNames expected v e := by
  rw [← Json.record_eq_error_iff]
  show (v.record fieldNames expected >>= _) = _ ↔ _
  rw [bind_eq_error_iff, or_iff_left]
  rintro ⟨get, -, h⟩
  cases h

theorem ofJson_array {xs : List Json} (h : xs.length ≤ fieldNames.length) :
    ofJson (.array xs) = ofJson (.object (fieldNames.zip xs)) := by
  rw [ofJson, ofJson, Json.record_array h]

/-- The entries agree in each field under whose name the objects have the same value. -/
structure AgreeWhere (ms ms' : Json.Members) (entry entry' : GatewayEntry) : Prop where
  host : ms.get? "host" = ms'.get? "host" → entry.host = entry'.host
  ipAddress : ms.get? "ip_address" = ms'.get? "ip_address" → entry.ipAddress = entry'.ipAddress
  ipAddress6 : ms.get? "ip_address6" = ms'.get? "ip_address6" → entry.ipAddress6 = entry'.ipAddress6
  location : ms.get? "location" = ms'.get? "location" → entry.location = entry'.location
  capabilities : ms.get? "capabilities" = ms'.get? "capabilities" →
    entry.capabilities = entry'.capabilities

theorem ofJson_object (ms ms' : Json.Members) : ∃ entry entry', ofJson (.object ms) = .ok entry ∧
    ofJson (.object ms') = .ok entry' ∧ AgreeWhere ms ms' entry entry' :=
  ⟨_, _, rfl, rfl, {
    host := congrArg Lenient.text
    ipAddress := congrArg Lenient.text
    ipAddress6 := congrArg Lenient.text
    location := congrArg Lenient.text
    capabilities := congrArg dropNull }⟩

end GatewayEntry

/-! ### Building gateways -/

namespace Gateway

variable {service : Service} {secrets : Secrets} {preferences : Preferences} {v w : Json}

theorem build_congr (h : GatewayEntry.ofJson v = GatewayEntry.ofJson w) :
    build service secrets v preferences = build service secrets w preferences := by
  rw [build, build, h]

/-- A gateway is refused for the shape of its entry exactly if the entry cannot be read. -/
theorem build_eq_entry_error_iff {e : Json.ShapeError} :
    build service secrets v preferences = .error (.entry e) ↔ GatewayEntry.ofJson v = .error e := by
  simp only [build, bind_eq_error_iff, mapError_eq_error_iff, GatewayError.entry.injEq,
    exists_eq_right, reduceCtorEq, and_false, exists_false, or_false]

end Gateway

/-! ### Gateways of a directory -/

namespace Directory

/-- Only records become gateways, with every version of the service document, all secrets and all
preferences. An entry is refused for its shape exactly if it is neither an object nor an array, or
an array of more than five items. An array of up to five items gives what the object gives that has
the items under the names of the fields. Every object is read, each field from the value under its
own name alone. Every gateway of a directory comes of such an entry. -/
theorem entries_are_records (provider : Provider) (preferences : Preferences) (timezone : Int) :
    (∀ v e, Gateway.build provider.service provider.secrets v preferences = .error (.entry e) ↔
      Json.NoRecord GatewayEntry.fieldNames GatewayEntry.expected v e) ∧
    (∀ xs : List Json, xs.length ≤ 5 →
      Gateway.build provider.service provider.secrets (.array xs) preferences =
        Gateway.build provider.service provider.secrets (.object (GatewayEntry.fieldNames.zip xs))
          preferences) ∧
    (∀ ms ms', ∃ entry entry', GatewayEntry.ofJson (.object ms) = .ok entry ∧
      GatewayEntry.ofJson (.object ms') = .ok entry' ∧
        GatewayEntry.AgreeWhere ms ms' entry entry') ∧
    ∀ g ∈ (build provider preferences timezone).gateways, ∃ v ∈ provider.service.gateways,
      Gateway.build provider.service provider.secrets v preferences = .ok g.withoutLoad ∧
        ((∃ ms, v = .object ms) ∨ ∃ xs, v = .array xs ∧ xs.length ≤ 5) := by
  refine ⟨fun v e => ?_, fun xs h => Gateway.build_congr (GatewayEntry.ofJson_array h),
    GatewayEntry.ofJson_object, fun g hg => ?_⟩
  · rw [Gateway.build_eq_entry_error_iff, GatewayEntry.ofJson_eq_error_iff]
  · obtain ⟨v, hv, hbuild⟩ := exists_entry_of_mem_gateways hg
    obtain ⟨entry, -, -, hentry, -⟩ := Gateway.build_eq_ok_iff.1 hbuild
    obtain ⟨get, hget, -⟩ := bind_eq_ok_iff.1 hentry
    refine ⟨v, hv, hbuild, ?_⟩
    cases Json.record_eq_ok_iff.1 hget with
    | object ms => exact .inl ⟨ms, rfl⟩
    | array h => exact .inr ⟨_, rfl, h⟩

/-! ### An entry without names -/

/-- An entry that is an array of a host and an address. -/
def positionalEntry : Json := .array [.text "a.example", .text "192.0.2.7"]

/-- A provider with this entry alone. -/
def positional : Provider where
  service := { gateways := [positionalEntry], version := 1 }

theorem exists_build_positional : ∃ g,
    Gateway.build positional.service positional.secrets positionalEntry {} = .ok g ∧
      g.host = "a.example" := by
  obtain ⟨g, hbuild, hhost, -⟩ := Gateway.exists_build_of_bare positional.service positionalEntry
    rfl (by decide) rfl rfl {}
  exact ⟨g, hbuild, hhost⟩

/-- The array gives what the object gives. -/
theorem entries_are_records_positional : ∃ g,
    Gateway.build positional.service {} positionalEntry {} = .ok g ∧
      Gateway.build positional.service {}
        (.object [("host", .text "a.example"), ("ip_address", .text "192.0.2.7")]) {} = .ok g ∧
      g.host = "a.example" := by
  obtain ⟨g, hbuild, hhost⟩ := exists_build_positional
  obtain ⟨-, harray, -⟩ := entries_are_records positional {} 0
  exact ⟨g, hbuild, (harray [.text "a.example", .text "192.0.2.7"] (by decide)).symm.trans hbuild,
    hhost⟩

/-- A gateway of a directory that comes of no object. -/
theorem positional_mem_gateways : ∃ g ∈ (build positional {} 0).gateways, g.host = "a.example" ∧
    ∀ v ∈ positional.service.gateways, ∀ ms, v ≠ .object ms := by
  obtain ⟨g, hbuild, hhost⟩ := exists_build_positional
  have hgateways : buildAll positional {} = [g] := by
    have hof : gatewayOf? positional {} positionalEntry = some g :=
      gatewayOf?_eq_some_iff.2 hbuild
    refine buildAll_of_nodup ?_ (by simp)
    exact congrArg (fun a => [a]) hof
  have hmem : g ∈ (build positional {} 0).gateways := by
    rw [build_eq, hgateways]
    exact List.mem_cons_self
  refine ⟨g, hmem, hhost, fun v hv ms => ?_⟩
  rw [List.mem_singleton.1 hv]
  exact nofun

end Directory

end VpnDirectory
