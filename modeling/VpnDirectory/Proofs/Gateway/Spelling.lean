import VpnDirectory.Proofs.Gateway.Transports
import VpnDirectory.Proofs.Json.Replaced
import VpnDirectory.Proofs.Number.Integer

/-!
# Numbers written as texts

Providers write ports and modes of obfuscation as numbers or as texts.

* `Json.Digits` : a whole number and the text of its digits.
* `GatewayEntry.Respelled` : an entry with some of its ports and modes written out, in the flat
  capabilities and in the matrix.
* `TransportEntry.ofJson_of_respelled`, `Capability.matrix_of_respelled`,
  `FlatCapabilities.ofJson_of_respelled` : either spelling is read to the same capabilities, or
  refused for the same reason.
* `Blueprint.profiles_withMatrix` : the profiles of a gateway do not depend on its capabilities but
  through what is read from them.
* `Gateway.build_of_respelled` : both spellings give the same gateway, or none for the same reason.
-/

namespace VpnDirectory

open Relation (ReflGen)

/-! ### Spellings of a number -/

/-- The second value is the text of the digits of a whole number. -/
inductive Json.Digits : Json → Json → Prop
  | whole {n : Int} {s : String} (h : toString n = s) : Digits (.number (.whole n)) (.text s)

namespace Lenient

variable {v w : Json}

theorem scalar?_of_digits (h : Json.Digits v w) : scalar? v = scalar? w := by
  cases h with
  | @whole n _ h =>
    subst h
    refine congrArg some ?_
    rw [Number.chars, ← toList_toString, String.ofList_toList]

theorem scalars_of_replaced (h : Json.ItemsReplaced Json.Digits v w) :
    scalars (some v) = scalars (some w) := by
  cases h with
  | array h => exact filterMap_eq_of_map_eq (Json.map_eq_of_replaced h fun _ _ => scalar?_of_digits)

end Lenient

/-! ### Spellings of capabilities -/

/-- Options with their mode written out. -/
def TransportOptions.Respelled : Json → Json → Prop :=
  Json.FieldsReplaced fieldNames fun
    | "iatMode" => Json.Digits
    | _ => fun _ _ => False

/-- An element of a matrix with some of its ports, or the mode in its options, written out. -/
def TransportEntry.Respelled : Json → Json → Prop :=
  Json.FieldsReplaced fieldNames fun
    | "ports" => Json.ItemsReplaced Json.Digits
    | "options" => TransportOptions.Respelled
    | _ => fun _ _ => False

/-- Capabilities with some of the flat ports, or of those of a matrix, or modes written out. -/
def Capability.Respelled : Json → Json → Prop :=
  Json.FieldsReplaced FlatCapabilities.fieldNames fun
    | "ports" => Json.ItemsReplaced Json.Digits
    | "transport" => Json.ItemsReplaced TransportEntry.Respelled
    | _ => fun _ _ => False

/-- An entry with some of its ports and modes written out. -/
def GatewayEntry.Respelled : Json → Json → Prop :=
  Json.FieldsReplaced fieldNames fun
    | "capabilities" => Capability.Respelled
    | _ => fun _ _ => False

section

variable {v w : Json}

theorem TransportOptions.ofJson?_of_respelled (h : Respelled v w) : ofJson? v = ofJson? w := by
  obtain ⟨old, new, hv, hw, hlength, -, hfields⟩ := h.exists_fields
  have hcert : old "cert" = new "cert" :=
    Json.eq_of_replaced (hfields "cert" (by decide)) id fun _ _ h => h.elim
  have hmode : Lenient.scalar (old "iatMode") = Lenient.scalar (new "iatMode") :=
    Json.eq_of_replaced (hfields "iatMode" (by decide)) Lenient.scalar
      fun _ _ h => Lenient.scalar?_of_digits h
  unfold ofJson? Json.record
  rw [hv, hw, ok_bind, ok_bind, hlength]
  cases w.checkLength fieldNames with
  | error e => rfl
  | ok => simp only [ok_bind, hcert, hmode]

theorem TransportEntry.ofJson_of_respelled (h : Respelled v w) : ofJson v = ofJson w := by
  obtain ⟨old, new, hv, hw, hlength, hobject, hfields⟩ := h.exists_fields
  have htype : old "type" = new "type" :=
    Json.eq_of_replaced (hfields "type" (by decide)) id fun _ _ h => h.elim
  have hprotocols : old "protocols" = new "protocols" :=
    Json.eq_of_replaced (hfields "protocols" (by decide)) id fun _ _ h => h.elim
  have hports : Lenient.scalars (old "ports") = Lenient.scalars (new "ports") :=
    Json.eq_of_replaced (hfields "ports" (by decide)) Lenient.scalars
      fun _ _ h => Lenient.scalars_of_replaced h
  have hoptions : (old "options").bind TransportOptions.ofJson? =
      (new "options").bind TransportOptions.ofJson? :=
    Json.eq_of_replaced (hfields "options" (by decide)) (·.bind TransportOptions.ofJson?)
      fun _ _ h => TransportOptions.ofJson?_of_respelled h
  unfold ofJson typeName
  rw [hv, hw, ok_bind, ok_bind, hlength, hobject, htype, hprotocols, hports, hoptions]

theorem FlatCapabilities.ofJson_of_respelled (h : Capability.Respelled v w) :
    ofJson v = ofJson w := by
  obtain ⟨old, new, hv, hw, hlength, -, hfields⟩ := h.exists_fields
  have hports : Lenient.scalars (old "ports") = Lenient.scalars (new "ports") :=
    Json.eq_of_replaced (hfields "ports" (by decide)) Lenient.scalars
      fun _ _ h => Lenient.scalars_of_replaced h
  have hprotocols : old "protocols" = new "protocols" :=
    Json.eq_of_replaced (hfields "protocols" (by decide)) id fun _ _ h => h.elim
  unfold ofJson Json.record
  rw [hv, hw, ok_bind, ok_bind, hlength]
  cases w.checkLength fieldNames with
  | error e => rfl
  | ok => simp only [ok_bind, hports, hprotocols]

/-- A matrix that cannot be read is refused in the same words as well. -/
theorem Capability.matrix_of_respelled (h : Respelled v w) : matrix (some v) = matrix (some w) := by
  have hfield := h.member? "transport"
  cases h with
  | @object ms ms' h =>
    simp only [Json.member?] at hfield
    simp only [matrix]
    generalize ms.get? "transport" = field, ms'.get? "transport" = field' at hfield ⊢
    -- the field is the same in both, an array with elements replaced, or missing
    obtain (_ | ⟨⟨hitems⟩⟩) | _ := hfield
    · rfl
    · exact congrArg (Except.mapError CapabilityError.malformed) (mapM_eq_of_map_eq
        (Json.map_eq_of_replaced hitems fun _ _ => TransportEntry.ofJson_of_respelled))
    · rfl
  | array => rfl

/-- Capabilities that are written out anywhere are not null. -/
theorem GatewayEntry.dropNull_replaced {field field' : Option Json}
    (h : Option.Rel (ReflGen Capability.Respelled) field field') :
    Option.Rel (ReflGen Capability.Respelled) (dropNull field) (dropNull field') := by
  obtain @⟨v, w, hvw⟩ | _ := h
  · cases hvw with
    | refl =>
      cases v with
      | null => exact .none
      | _ => exact .some .refl
    | single h =>
      cases h with
      | object h => exact .some (.single (.object h))
      | array h => exact .some (.single (.array h))
  · exact .none

/-- The two spellings of an entry are refused alike, or read to entries that differ in nothing but
capabilities that are read alike. -/
theorem GatewayEntry.ofJson_of_respelled (h : Respelled v w) :
    (∃ e, ofJson v = .error e ∧ ofJson w = .error e) ∨
      ∃ entry capabilities, ofJson v = .ok entry ∧ ofJson w = .ok { entry with capabilities } ∧
        matrix { entry with capabilities } = entry.matrix ∧
        flat { entry with capabilities } = entry.flat := by
  obtain ⟨old, new, hv, hw, hlength, -, hfields⟩ := h.exists_fields
  have hother : ∀ name ∈ fieldNames, name ≠ "capabilities" → old name = new name :=
    fun name hname hne => Json.eq_of_replaced (hfields name hname) id fun _ _ h => by
      split at h
      · exact absurd rfl hne
      · exact h.elim
  have hcapabilities := dropNull_replaced (hfields "capabilities" (by decide))
  have hmatrix := Json.eq_of_replaced hcapabilities Capability.matrix
    fun _ _ => Capability.matrix_of_respelled
  have hflat := Json.eq_of_replaced hcapabilities (·.map FlatCapabilities.ofJson)
    fun _ _ h => congrArg some (FlatCapabilities.ofJson_of_respelled h)
  unfold ofJson Json.record
  rw [hv, hw, ok_bind, ok_bind, hlength]
  cases w.checkLength fieldNames with
  | error e => exact .inl ⟨e, rfl, rfl⟩
  | ok =>
    refine .inr ⟨_, dropNull (new "capabilities"), rfl, ?_, hmatrix.symm, ?_⟩
    · rw [hother "host" (by decide) (by decide), hother "ip_address" (by decide) (by decide),
        hother "ip_address6" (by decide) (by decide), hother "location" (by decide) (by decide)]
      rfl
    · exact congrArg (·.getD {}) hflat.symm

end

/-! ### Gateways of either spelling -/

namespace Blueprint

variable {b : Blueprint} {capabilities : Option Json}

theorem remotes_withMatrix (h : GatewayEntry.flat { b.entry with capabilities } = b.entry.flat)
    (t : Transport) : (b.withMatrix capabilities b.matrix).remotes t = b.remotes t := by
  have hflat : (b.withMatrix capabilities b.matrix).entry.flat = b.entry.flat := h
  unfold remotes flatRemotes
  rw [hflat]
  rfl

/-- Profiles depend on the capabilities of an entry through what is read from them alone. -/
theorem profiles_withMatrix (h : GatewayEntry.flat { b.entry with capabilities } = b.entry.flat) :
    (b.withMatrix capabilities b.matrix).profiles = b.profiles := by
  have htext : ∀ t, (b.withMatrix capabilities b.matrix).text t = b.text t := fun t => by
    unfold text
    rw [remotes_withMatrix h]
    rfl
  unfold profiles profile
  rw [htext, htext]
  rfl

theorem make_withMatrix {general : Json.Members} {secrets : Secrets} {entry : GatewayEntry}
    {version : Int} {preferences : Preferences}
    (h : GatewayEntry.matrix { entry with capabilities } = entry.matrix) :
    make general secrets { entry with capabilities } version preferences =
      (make general secrets entry version preferences).map
        fun b => b.withMatrix capabilities b.matrix := by
  unfold make
  rw [h]
  by_cases hversion : matrixVersion ≤ version
  · simp only [if_pos hversion]
    cases entry.matrix with
    | error e => rfl
    | ok matrix => rfl
  · simp only [if_neg hversion]
    rfl

end Blueprint

namespace Gateway

variable {service : Service} {secrets : Secrets} {preferences : Preferences} {v w : Json}

/-- It makes no difference whether ports and modes of obfuscation are written as numbers or as the
texts of their digits. With any number of the whole numbers among them written out, an entry gives
the same gateway in all its parts, or none for the same reason. -/
theorem build_of_respelled (service : Service) (secrets : Secrets) (preferences : Preferences)
    (h : GatewayEntry.Respelled v w) :
    build service secrets w preferences = build service secrets v preferences := by
  obtain ⟨e, hv, hw⟩ | ⟨entry, capabilities, hv, hw, hmatrix, hflat⟩ :=
    GatewayEntry.ofJson_of_respelled h
  · rw [build, build, hv, hw]
  · have hentry : (GatewayEntry.ofJson v).mapError GatewayError.entry = .ok entry :=
      mapError_eq_ok_iff.2 hv
    have hentry' : (GatewayEntry.ofJson w).mapError GatewayError.entry =
        .ok { entry with capabilities } := mapError_eq_ok_iff.2 hw
    simp only [build, hentry, hentry', ok_bind, Blueprint.make_withMatrix hmatrix]
    cases hmake : Blueprint.make service.directives secrets entry service.version preferences with
    | error e => rfl
    | ok b =>
      obtain ⟨-, -, rfl, -, -⟩ := Blueprint.of_make hmake
      have hprofiles := Blueprint.profiles_withMatrix hflat
      simp only [Except.map, Except.mapError, ok_bind, hprofiles]

end Gateway

/-! ### A bridge in numbers -/

namespace UdpBridge

/-- The entry for plain OpenVPN with its port as a number. -/
def plainInNumbers : Json := .object [("type", .text "openvpn"),
  ("protocols", .array [.text "udp"]), ("ports", .array [.number (.whole 1194)])]

/-- The entry for obfs4 with its port and its mode as numbers. -/
def bridgeInNumbers : Json := .object [("type", .text "obfs4"), ("protocols", .array [.text "udp"]),
  ("ports", .array [.number (.whole 23050)]),
  ("options", .object [("cert", .text "CERT"), ("iatMode", .number (.whole 1))])]

theorem plainInNumbers_respelled : TransportEntry.Respelled plainInNumbers plain :=
  .object (.cons ⟨rfl, .refl⟩ (.cons ⟨rfl, .refl⟩
    (.cons ⟨rfl, .single (.array (.cons (.single (.whole rfl)) .nil))⟩ .nil)))

theorem bridgeInNumbers_respelled : TransportEntry.Respelled bridgeInNumbers bridge := by
  have hports : Json.ItemsReplaced Json.Digits (.array [.number (.whole 23050)])
      (.array [.text "23050"]) := .array (.cons (.single (.whole rfl)) .nil)
  have hoptions : TransportOptions.Respelled
      (.object [("cert", .text "CERT"), ("iatMode", .number (.whole 1))])
      (.object [("cert", .text "CERT"), ("iatMode", .text "1")]) :=
    .object (.cons ⟨rfl, .refl⟩ (.cons ⟨rfl, .single (.whole rfl)⟩ .nil))
  exact .object (.cons ⟨rfl, .refl⟩ (.cons ⟨rfl, .refl⟩
    (.cons ⟨rfl, .single hports⟩ (.cons ⟨rfl, .single hoptions⟩ .nil))))

theorem item_respelled : GatewayEntry.Respelled (item [plainInNumbers, bridgeInNumbers])
    (item [plain, bridge]) := by
  have hmatrix : Json.ItemsReplaced TransportEntry.Respelled
      (.array [plainInNumbers, bridgeInNumbers]) (.array [plain, bridge]) :=
    .array (.cons (.single plainInNumbers_respelled)
      (.cons (.single bridgeInNumbers_respelled) .nil))
  have hcapabilities : Capability.Respelled
      (.object [("transport", .array [plainInNumbers, bridgeInNumbers])])
      (.object [("transport", .array [plain, bridge])]) :=
    .object (.cons ⟨rfl, .single hmatrix⟩ .nil)
  exact .object (.cons ⟨rfl, .refl⟩ (.cons ⟨rfl, .refl⟩ (.cons ⟨rfl, .single hcapabilities⟩ .nil)))

end UdpBridge

/-- The gateway of an entry in numbers has both profiles, as that of the entry in texts. -/
theorem Gateway.build_of_respelled_udpBridge : ∃ g,
    build UdpBridge.service {}
        (UdpBridge.item [UdpBridge.plainInNumbers, UdpBridge.bridgeInNumbers]) {} = .ok g ∧
      build UdpBridge.service {} (UdpBridge.item [UdpBridge.plain, UdpBridge.bridge]) {} = .ok g ∧
      g.supports .openvpn ∧ g.supports .obfs4 := by
  obtain ⟨g, hg⟩ := UdpBridge.exists_build {} rfl
  obtain ⟨p, hp⟩ := UdpBridge.exists_readsAs {}
  refine ⟨g, ?_, hg, supports_openvpn g, ?_⟩
  · exact (build_of_respelled UdpBridge.service {} {} UdpBridge.item_respelled).symm.trans hg
  · exact (supports_obfs4_iff hg).2 ⟨_, rfl, Blueprint.exists_profile_obfs4_iff.2
      ⟨Int.le_refl 3, _, _, UdpBridge.options, p, rfl, rfl,
        .inr ⟨rfl, UdpBridge.announces_bridgeEntry _⟩, hp⟩⟩

end VpnDirectory
