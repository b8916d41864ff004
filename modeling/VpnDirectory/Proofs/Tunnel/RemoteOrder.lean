import VpnDirectory.Proofs.Collection.Choices
import VpnDirectory.Proofs.Tunnel.Rendering

/-!
# The order of remotes

Whether a client prefers UDP makes a difference to the order of the plain remotes of a gateway with
a matrix, and to nothing else.

* `Blueprint.preferring` : what goes into the profiles of the same gateway for a client that prefers
  UDP, or that does not.
* `Blueprint.remotes_preferring` : obfuscated tunnels and early versions have the same lines.
* `Blueprint.portMajor_remotes`, `Blueprint.protocolMajor_remotes` : in which order the lines stand.
* `Blueprint.remotes_perm` : they are the same lines.
* `Blueprint.prefersUdp_reorders` : all of this for whatever a gateway publishes.
-/

namespace VpnDirectory.Blueprint

variable {b : Blueprint} {t : Transport} {e : TransportEntry}

/-- The same for a client that prefers UDP, or that does not. -/
def preferring (b : Blueprint) (prefersUdp : Bool) : Blueprint :=
  { b with preferences := { b.preferences with prefersUdp } }

/-- The preference plays no part in whether there is a blueprint. -/
theorem make_preferring (general : Json.Members) (secrets : Secrets) (entry : GatewayEntry)
    (version : Int) (preferences : Preferences) (prefersUdp : Bool) :
    make general secrets entry version { preferences with prefersUdp } =
      (make general secrets entry version preferences).map (·.preferring prefersUdp) := by
  unfold make
  by_cases hversion : matrixVersion ≤ version
  · simp only [if_pos hversion]
    cases entry.matrix with
    | error e => rfl
    | ok matrix => rfl
  · simp only [if_neg hversion]
    rfl

/-! ### What stays the same -/

/-- Obfuscated tunnels and early versions have the same lines. -/
theorem remotes_preferring (h : t.isPluggable ∨ b.version < matrixVersion) (prefersUdp : Bool) :
    (b.preferring prefersUdp).remotes t = b.remotes t := by
  unfold remotes
  by_cases hversion : b.version < matrixVersion
  · have hversion' : (b.preferring prefersUdp).version < matrixVersion := hversion
    rw [if_pos hversion, if_pos hversion']
    rfl
  · have hversion' : ¬ (b.preferring prefersUdp).version < matrixVersion := hversion
    have ht : t.isPluggable := h.resolve_right hversion
    rw [if_neg hversion, if_neg hversion', if_pos ht, if_pos ht]
    rfl

theorem text_preferring (h : t.isPluggable ∨ b.version < matrixVersion) (prefersUdp : Bool) :
    (b.preferring prefersUdp).text t = b.text t := by
  unfold text
  rw [remotes_preferring h]
  rfl

theorem obfuscation_preferring (b : Blueprint) (prefersUdp : Bool) :
    (b.preferring prefersUdp).obfuscation = b.obfuscation := rfl

/-! ### Two orders -/

/-- For each port every protocol, and for each protocol every address. -/
def PortMajor (b : Blueprint) (e : TransportEntry) (lines : List String) : Prop :=
  RunsThrough lines (usablePorts e.ports) e.protocols b.entry.addresses
    fun port protocol address => remoteLine address port (some protocol)

/-- For each of some protocols every port, and for each port every address. -/
def ProtocolMajor (b : Blueprint) (e : TransportEntry) (protocols lines : List String) : Prop :=
  RunsThrough lines protocols (usablePorts e.ports) b.entry.addresses
    fun protocol port address => remoteLine address port (some protocol)

/-- With UDP preferred, the remotes of `udp` come first. -/
theorem remotes_preferring_true (hversion : matrixVersion ≤ b.version)
    (he : b.entryFor? .openvpn = some e) : (b.preferring true).remotes .openvpn =
      remotesOf b.entry.addresses (usablePorts e.ports) (e.protocols.filter (· == "udp")) ++
        remotesOf b.entry.addresses (usablePorts e.ports) (e.protocols.filter (· != "udp")) := by
  have he' : (b.preferring true).entryFor? .openvpn = some e := he
  rw [remotes_openvpn_of_matrix (b := b.preferring true) hversion, openvpnRemotes, he']
  rfl

theorem remotes_preferring_false (hversion : matrixVersion ≤ b.version)
    (he : b.entryFor? .openvpn = some e) : (b.preferring false).remotes .openvpn =
      (usablePorts e.ports).flatMap fun port => e.protocols.flatMap fun protocol =>
        b.entry.addresses.map fun address => remoteLine address port (some protocol) := by
  have he' : (b.preferring false).entryFor? .openvpn = some e := he
  rw [remotes_openvpn_of_matrix (b := b.preferring false) hversion, openvpnRemotes, he']
  rfl

theorem remotes_preferring_of_none (hversion : matrixVersion ≤ b.version)
    (hnone : b.entryFor? .openvpn = none) (prefersUdp : Bool) :
    (b.preferring prefersUdp).remotes .openvpn = [] := by
  have hnone' : (b.preferring prefersUdp).entryFor? .openvpn = none := hnone
  rw [remotes_openvpn_of_matrix (b := b.preferring prefersUdp) hversion, openvpnRemotes, hnone']

theorem portMajor_remotes (hversion : matrixVersion ≤ b.version)
    (he : b.entryFor? .openvpn = some e) :
    b.PortMajor e ((b.preferring false).remotes .openvpn) := by
  rw [remotes_preferring_false hversion he]
  exact RunsThrough.of_flatMap _ _ _ _

theorem protocolMajor_remotesOf (b : Blueprint) (e : TransportEntry) (protocols : List String) :
    b.ProtocolMajor e protocols (remotesOf b.entry.addresses (usablePorts e.ports) protocols) :=
  RunsThrough.of_flatMap _ _ _ _

/-- With UDP preferred, the lines of `udp` are followed by all others, in the same order each. -/
theorem protocolMajor_remotes (hversion : matrixVersion ≤ b.version)
    (he : b.entryFor? .openvpn = some e) :
    ∃ udp others, (b.preferring true).remotes .openvpn = udp ++ others ∧
      b.ProtocolMajor e (e.protocols.filter (· == "udp")) udp ∧
      b.ProtocolMajor e (e.protocols.filter (· != "udp")) others :=
  ⟨_, _, remotes_preferring_true hversion he, protocolMajor_remotesOf b e _,
    protocolMajor_remotesOf b e _⟩

/-! ### The same lines -/

/-- With a matrix, clients of both kinds have the same remotes. -/
theorem remotes_perm (hversion : matrixVersion ≤ b.version) :
    ((b.preferring true).remotes .openvpn).Perm ((b.preferring false).remotes .openvpn) := by
  cases he : b.entryFor? .openvpn with
  | none =>
    rw [remotes_preferring_of_none hversion he, remotes_preferring_of_none hversion he]
  | some e =>
    have hprotocols : (e.protocols.filter (· == "udp") ++ e.protocols.filter (· != "udp")).Perm
        e.protocols := List.filter_append_perm _ _
    rw [remotes_preferring_true hversion he, remotes_preferring_false hversion he]
    unfold remotesOf
    rw [← List.flatMap_append]
    -- with `udp` moved to the front or not, it remains to exchange ports and protocols
    exact (hprotocols.flatMap_right _).trans (flatMap_comm_perm _ _ _)

theorem partLines_perm {lines lines' : List String} (h : lines.Perm lines') :
    (partLines lines).Perm (partLines lines') := by
  by_cases hnil : lines = []
  · subst hnil
    rw [h.nil_eq]
  · have hnil' : lines' ≠ [] := fun heq => hnil (by simpa [heq] using h)
    rw [partLines_of_ne_nil hnil, partLines_of_ne_nil hnil']
    exact h.flatMap_right _

/-- The texts for clients of both kinds have the same lines. -/
theorem lines_text_perm (b : Blueprint) (t : Transport) :
    (Text.lines ((b.preferring true).text t).toList).Perm
      (Text.lines ((b.preferring false).text t).toList) := by
  by_cases h : t.isPluggable ∨ b.version < matrixVersion
  · rw [text_preferring h, text_preferring h]
  · obtain ⟨ht, hversion⟩ := not_or.1 h
    obtain rfl : t = .openvpn := by
      cases t with
      | openvpn => rfl
      | obfs4 => exact absurd rfl ht
      | obfs4Hop => exact absurd rfl ht
    rw [lines_text, lines_text]
    exact ((partLines_perm (remotes_perm (Int.not_lt.1 hversion))).append_right _).append_left _

/-- Preferring UDP does nothing but reorder remotes. It plays no part in whether there is a
blueprint, in the texts and the options of obfuscated tunnels, and in the texts of early versions,
while every text has the same lines. From the first version with matrices on, the remotes of plain
OpenVPN are those of the first entry for it, one for each address, each of its texts that are ports
and each protocol. For a client that does not prefer UDP they go by port, then protocol, then
address; for one that does, those of `udp` come before all others, and both of these by protocol,
then port, then address. -/
theorem prefersUdp_reorders (general : Json.Members) (secrets : Secrets) (entry : GatewayEntry)
    (version : Int) (preferences : Preferences) :
    (∀ prefersUdp, make general secrets entry version { preferences with prefersUdp } =
      (make general secrets entry version preferences).map (·.preferring prefersUdp)) ∧
    ∀ b, make general secrets entry version preferences = .ok b →
      (∀ prefersUdp t, t.isPluggable ∨ version < 3 →
        (b.preferring prefersUdp).text t = b.text t) ∧
      (∀ prefersUdp, (b.preferring prefersUdp).obfuscation = b.obfuscation) ∧
      (∀ t, (Text.lines ((b.preferring true).text t).toList).Perm
        (Text.lines ((b.preferring false).text t).toList)) ∧
      (3 ≤ version →
        ((b.preferring true).remotes .openvpn).Perm ((b.preferring false).remotes .openvpn) ∧
        (b.entryFor? .openvpn = none → ∀ prefersUdp,
          (b.preferring prefersUdp).remotes .openvpn = []) ∧
        ∀ e, b.entryFor? .openvpn = some e →
          (∀ prefersUdp, ((b.preferring prefersUdp).remotes .openvpn).length =
            entry.addresses.length * (usablePorts e.ports).length * e.protocols.length) ∧
          b.PortMajor e ((b.preferring false).remotes .openvpn) ∧
          ∃ udp others, (b.preferring true).remotes .openvpn = udp ++ others ∧
            b.ProtocolMajor e (e.protocols.filter (· == "udp")) udp ∧
            b.ProtocolMajor e (e.protocols.filter (· != "udp")) others) := by
  refine ⟨make_preferring general secrets entry version preferences, fun b hmake => ?_⟩
  obtain ⟨rfl, rfl, rfl, rfl, rfl⟩ := of_make hmake
  refine ⟨fun prefersUdp t h => text_preferring h prefersUdp, obfuscation_preferring b,
    lines_text_perm b, fun hversion => ⟨remotes_perm hversion,
      remotes_preferring_of_none hversion, fun e he => ⟨fun prefersUdp => ?_,
        portMajor_remotes hversion he, protocolMajor_remotes hversion he⟩⟩⟩
  have hlength : ((b.preferring false).remotes .openvpn).length =
      b.entry.addresses.length * (usablePorts e.ports).length * e.protocols.length := by
    rw [(portMajor_remotes hversion he).length, Nat.mul_comm, Nat.mul_assoc]
  cases prefersUdp with
  | false => exact hlength
  | true => rw [(remotes_perm hversion).length_eq, hlength]

/-! ### A gateway with two addresses -/

namespace TwoAddresses

def entry : GatewayEntry where
  host := "a.example"
  ipAddress := "192.0.2.7"
  ipAddress6 := "2001:db8::7"
  location := ""
  capabilities := some (.object [("transport", .array [.object [("type", .text "openvpn"),
    ("protocols", .array [.text "tcp", .text "udp"]),
    ("ports", .array [.text "http", .text "443"])]])])

/-- What the matrix offers; one of the texts is no port. -/
def offered : TransportEntry := ⟨some .openvpn, ["tcp", "udp"], ["http", "443"], none⟩

def blueprint : Blueprint := ⟨[], {}, entry, 3, {}, [offered]⟩

end TwoAddresses

/-- The lines of `udp` change places with the others, and none is lost. -/
theorem prefersUdp_reorders_twoAddresses :
    make [] {} TwoAddresses.entry 3 {} = .ok TwoAddresses.blueprint ∧
      (TwoAddresses.blueprint.preferring true).remotes .openvpn =
        ["remote 2001:db8::7 443 udp", "remote 192.0.2.7 443 udp",
          "remote 2001:db8::7 443 tcp", "remote 192.0.2.7 443 tcp"] ∧
      ((TwoAddresses.blueprint.preferring false).remotes .openvpn).length = 4 ∧
      ((TwoAddresses.blueprint.preferring true).remotes .openvpn).Perm
        ((TwoAddresses.blueprint.preferring false).remotes .openvpn) ∧
      (TwoAddresses.blueprint.preferring true).text .obfs4 =
        TwoAddresses.blueprint.text .obfs4 := by
  have hmake : make [] {} TwoAddresses.entry 3 {} = .ok TwoAddresses.blueprint := rfl
  have hentry : TwoAddresses.blueprint.entryFor? .openvpn = some TwoAddresses.offered := rfl
  have hversion : matrixVersion ≤ TwoAddresses.blueprint.version := Int.le_refl 3
  obtain ⟨-, hblueprint⟩ := prefersUdp_reorders [] {} TwoAddresses.entry 3 {}
  obtain ⟨htext, -, -, hremotes⟩ := hblueprint TwoAddresses.blueprint hmake
  obtain ⟨hperm, -, hoffered⟩ := hremotes (Int.le_refl 3)
  obtain ⟨hlength, -, -⟩ := hoffered TwoAddresses.offered hentry
  refine ⟨hmake, ?_, hlength false, hperm, htext true .obfs4 (.inl rfl)⟩
  rw [remotes_preferring_true hversion hentry]
  rfl

end VpnDirectory.Blueprint
