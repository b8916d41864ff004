import VpnDirectory.Preferences.Json
import VpnDirectory.Proofs.Json.Record

/-!
# Preferences read back from JSON

The members that `Preferences.toJson` writes are those of the fields that `Preferences.ofJsonText`
reads, in their order. A field without a value has no member, so that its first value is kept.

* `Pinning.reads_toJson` : a pinning is read back.
* `Preferences.stored_toJson` : the members of preferences belong to fields in their order.
* `Preferences.ofJsonText_toJsonText` : preferences are read back from their text.
-/

namespace VpnDirectory

open Json (Reads Stored)

namespace Pinning

variable (p : Pinning)

theorem reads_toJson : Reads 1 reader p.toJson p := by
  refine Reads.record (by decide) ?_ "a pinning"
  refine .cons ((Reads.text p.ip).of "ip" _ _) ?_
  refine .cons ((Reads.text p.port).of "port" _ _) ?_
  refine .cons ((Reads.text p.cert).of "cert" _ _) ?_
  exact .cons ((Reads.bool p.usesKcp).of "use_kcp" _ _) (.nil _)

theorem numberless_toJson : p.toJson.Numberless := by
  refine .object ?_
  simp only [List.forall_mem_cons]
  exact ⟨.text _, .text _, .text _, .bool _, nofun⟩

end Pinning

namespace Preferences

theorem numberless_optionalMember {α : Type} {write : α → Json} (h : ∀ a, (write a).Numberless)
    (key : String) (o : Option α) : ∀ m ∈ optionalMember key (o.map write), m.2.Numberless := by
  cases o with
  | none => nofun
  | some a => exact List.forall_mem_singleton.2 (h a)

/-- A field whose member is left out if it has no value. -/
theorem stored_optionalMember {σ α : Type} {levels : Nat} {r : Json.Reader α} {write : α → Json}
    (hread : ∀ a, Reads levels r (write a) a) (hnull : ∀ a, write a ≠ .null) {name : String}
    {store : σ → Option α → σ} {fields : List (Json.Field σ)} {s s' : σ} {ms : Json.Members}
    {o : Option α} (hnone : store s none = s) (hrest : Stored levels fields (store s o) ms s') :
    Stored levels (.of name (.optional r) store :: fields) s
      (optionalMember name (o.map write) ++ ms) s' := by
  cases o with
  | none =>
    rw [hnone] at hrest
    exact .skip _ hrest
  | some a => exact .cons (((hread a).optional (hnull a)).of name store s) hrest

variable (p : Preferences)

/-- The members that are written are those of the fields that have a value. -/
theorem stored_toJson : ∃ ms, p.toJson = .object ms ∧ Stored 1 fields {} ms p := by
  have happs : StringSet.ofList p.excludedApps.toList = p.excludedApps :=
    StringSet.ofList_toList p.excludedApps
  refine ⟨_, rfl, ?_⟩
  rw [List.append_assoc, List.append_assoc,
    ← List.append_nil (optionalMember "obfuscation_pinning" _)]
  refine stored_optionalMember Reads.text nofun rfl ?_
  refine .cons ((Reads.bool p.prefersUdp).of "prefer_udp" _ _) ?_
  refine .cons ((Reads.bool p.usesPluggable).of "use_pluggable_transports" _ _) ?_
  refine .cons ((Reads.bool p.dialsBridges).of "use_obfs_vpn" _ _) ?_
  refine .cons ((Reads.texts p.excludedApps.toList).of "excluded_apps" _ _) ?_
  refine stored_optionalMember Reads.text nofun rfl ?_
  refine stored_optionalMember Pinning.reads_toJson nofun rfl ?_
  rw [happs]
  exact .nil p

theorem numberless_toJson : p.toJson.Numberless := by
  refine .object ?_
  simp only [List.forall_mem_append, List.forall_mem_cons]
  refine ⟨⟨⟨numberless_optionalMember .text _ _, .bool _, .bool _, .bool _, .array ?_, nofun⟩,
    numberless_optionalMember .text _ _⟩,
    numberless_optionalMember Pinning.numberless_toJson _ _⟩
  exact List.forall_mem_map.2 fun app _ => .text app

/-- Preferences are read back from their text. -/
theorem ofJsonText_toJsonText : ofJsonText p.toJsonText = .ok p := by
  obtain ⟨ms, hms, hstored⟩ := p.stored_toJson
  have hnumberless := p.numberless_toJson
  rw [hms] at hnumberless
  rw [ofJsonText, toJsonText, hms,
    Json.parseRecord_pretty (by decide) hstored (by decide) hnumberless]
  rfl

end Preferences

end VpnDirectory
