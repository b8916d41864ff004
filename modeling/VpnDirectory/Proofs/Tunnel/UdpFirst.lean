import VpnDirectory.Proofs.Tunnel.Faults
import VpnDirectory.Proofs.Tunnel.RoundTrip

/-!
# UDP before TCP

A client that prefers UDP is to dial over UDP first. Remotes of the protocol `udp` are written first
for it, but what is read back as UDP is every protocol whose name does not start like that of TCP.
The order of the other names is the one they are published in.

* `Connection.UdpFirst` : no connection over UDP stands behind one over TCP.
* `Blueprint.pairwise_udpFirst_iff` : which protocols are in such an order when they are read back;
  `Blueprint.udpFirst_endpoints_iff` puts this in terms of a gateway.
* `Blueprint.remotesSaid` : the remotes that a text is read to have. They become the connections of
  the profile, in the same order (`Blueprint.udpFirst_connections_iff`), and are those of the
  gateway alone if neither general directives nor certificates say one (`Blueprint.remotesSaid_eq`).
* `Blueprint.profile_udpFirst_iff` : when the profile for plain OpenVPN has UDP first.
-/

namespace VpnDirectory

/-- No connection over UDP stands behind one over TCP. -/
def Connection.UdpFirst (cs : List Connection) : Prop :=
  cs.Pairwise fun a b => b.usesUdp → a.usesUdp

instance (cs : List Connection) : Decidable (Connection.UdpFirst cs) :=
  inferInstanceAs (Decidable (cs.Pairwise _))

namespace Directive

/-- Does the remote go over UDP? One that names no protocol goes by the default. -/
def usesUdp (d : Config.Defaults) (x : Directive) : Bool :=
  (x.args[2]?).elim d.usesUdp Config.isUdp

theorem map_usesUdp {d : Config.Defaults} {xs : List Directive} {cs : List Connection}
    (h : List.Forall₂ (Dials d) xs cs) : cs.map (·.usesUdp) = xs.map (·.usesUdp d) := by
  induction h with
  | nil => rfl
  | cons hdials _ ih =>
    rw [List.map_cons, List.map_cons, hdials.usesUdp, ih]
    rfl

end Directive

namespace Blueprint

variable {b : Blueprint} {p : Profile} {protocols : List String}

/-! ### Protocols -/

/-- Behind a protocol that counts as TCP none but `udp` counts as UDP. -/
def ReadsUdpFirst (protocols : List String) : Prop :=
  protocols.Pairwise fun q r => Config.isUdp r → r = "udp" ∨ Config.isUdp q

instance (protocols : List String) : Decidable (ReadsUdpFirst protocols) :=
  inferInstanceAs (Decidable (protocols.Pairwise _))

theorem isUdp_udp : Config.isUdp "udp" := by decide

/-- With `udp` moved to the front, it is the order of the other names that decides. -/
theorem pairwise_udpFirst_iff :
    (udpFirst protocols).Pairwise (fun q r => Config.isUdp r → Config.isUdp q) ↔
      ReadsUdpFirst protocols := by
  unfold udpFirst ReadsUdpFirst
  rw [List.pairwise_append, List.pairwise_filter, List.pairwise_filter]
  constructor
  · rintro ⟨-, hothers, -⟩
    refine hothers.imp fun {q r} h hr => ?_
    by_cases hr' : r = "udp"
    · exact .inl hr'
    by_cases hq : q = "udp"
    · right
      rw [hq]
      exact isUdp_udp
    · exact .inr (h (by simpa using hq) (by simpa using hr') hr)
  · intro h
    refine ⟨List.pairwise_of_forall fun q r hq _ _ => ?_, h.imp fun {q r} h _ hr hudp => ?_,
      fun q hq r _ _ => ?_⟩
    · rw [eq_of_beq hq]
      exact isUdp_udp
    · exact (h hudp).resolve_left (by simpa using hr)
    · rw [eq_of_beq (List.mem_filter.1 hq).2]
      exact isUdp_udp

/-! ### End points -/

/-- The end points for a protocol, each port at each address. -/
def endpointsOf (ports : List (String × Port)) (addresses : List String) (protocol : String) :
    List Endpoint :=
  ports.flatMap fun p => addresses.map fun address => ⟨address, p.1, p.2, protocol⟩

theorem endpointsOf_eq_nil_iff {ports : List (String × Port)} {addresses : List String}
    {protocol : String} :
    endpointsOf ports addresses protocol = [] ↔ ports = [] ∨ addresses = [] := by
  cases ports with
  | nil => simp [endpointsOf]
  | cons p ports => simp +contextual [endpointsOf, List.flatMap_eq_nil_iff]

theorem protocol_of_mem_endpointsOf {ports : List (String × Port)} {addresses : List String}
    {protocol : String} {e : Endpoint} (he : e ∈ endpointsOf ports addresses protocol) :
    e.protocol = protocol := by
  simp only [endpointsOf, List.mem_flatMap, List.mem_map] at he
  obtain ⟨_, _, _, _, rfl⟩ := he
  rfl

/-- With UDP preferred, the end points for a protocol stand together. -/
theorem endpoints_of_prefersUdp (hversion : matrixVersion ≤ b.version)
    (hudp : b.preferences.prefersUdp) {e : TransportEntry} (he : b.entryFor? .openvpn = some e) :
    b.endpoints =
      (udpFirst e.protocols).flatMap (endpointsOf (numberedPorts e.ports) b.entry.addresses) := by
  rw [endpoints, if_neg (Int.not_lt.2 hversion), he]
  exact if_pos hudp

/-- A relation between protocols holds throughout lists of end points, one for each protocol and
none of them empty, if it holds throughout the protocols. -/
theorem pairwise_flatMap_protocol_iff {R : String → String → Prop} (hrefl : ∀ q, R q q)
    {f : String → List Endpoint} (hne : ∀ q, f q ≠ []) (hf : ∀ q, ∀ e ∈ f q, e.protocol = q) :
    (protocols.flatMap f).Pairwise (fun e e' => R e.protocol e'.protocol) ↔
      protocols.Pairwise R := by
  rw [List.pairwise_flatMap]
  constructor
  · rintro ⟨-, h⟩
    refine h.imp fun {q r} hqr => ?_
    obtain ⟨e, he⟩ := List.exists_mem_of_ne_nil _ (hne q)
    obtain ⟨e', he'⟩ := List.exists_mem_of_ne_nil _ (hne r)
    have hends := hqr e he e' he'
    rwa [hf q e he, hf r e' he'] at hends
  · intro h
    constructor
    · intro q _
      refine List.Pairwise.imp_of_mem (fun {e e'} he he' _ => ?_)
        (List.pairwise_of_forall fun _ _ => trivial)
      rw [hf q e he, hf q e' he']
      exact hrefl q
    · refine h.imp fun {q r} hqr e he e' he' => ?_
      rwa [hf q e he, hf r e' he']

/-- The end points are in such an order exactly if their protocols are. -/
theorem udpFirst_endpoints_iff (hversion : matrixVersion ≤ b.version)
    (hudp : b.preferences.prefersUdp) :
    Connection.UdpFirst (b.endpoints.map Endpoint.connection) ↔
      ∀ e ∈ b.entryFor? .openvpn, usablePorts e.ports = [] ∨ b.entry.addresses = [] ∨
        ReadsUdpFirst e.protocols := by
  cases hentry : b.entryFor? .openvpn with
  | none =>
    have hnil : b.endpoints = [] := by
      rw [endpoints, if_neg (Int.not_lt.2 hversion), hentry]
    rw [hnil]
    exact iff_of_true List.Pairwise.nil (by simp)
  | some e =>
    have hports : usablePorts e.ports = [] ↔ numberedPorts e.ports = [] := by
      rw [usablePorts_eq, List.map_eq_nil_iff]
    simp only [Option.mem_some_iff, forall_eq', hports]
    rw [endpoints_of_prefersUdp hversion hudp hentry, ← or_assoc]
    unfold Connection.UdpFirst
    rw [List.pairwise_map]
    by_cases hnil : numberedPorts e.ports = [] ∨ b.entry.addresses = []
    · have hempty : (udpFirst e.protocols).flatMap
          (endpointsOf (numberedPorts e.ports) b.entry.addresses) = [] :=
        List.flatMap_eq_nil_iff.2 fun _ _ => endpointsOf_eq_nil_iff.2 hnil
      rw [hempty]
      exact iff_of_true List.Pairwise.nil (.inl hnil)
    · rw [or_iff_right hnil, ← pairwise_udpFirst_iff]
      exact pairwise_flatMap_protocol_iff (R := fun q r => Config.isUdp r → Config.isUdp q)
        (fun _ => id) (fun _ => mt endpointsOf_eq_nil_iff.1 hnil)
        (fun _ _ => protocol_of_mem_endpointsOf)

/-! ### Remotes of the whole text -/

/-- The directives that the text for a transport is read to have. -/
def directivesSaid (b : Blueprint) (t : Transport) : List Directive :=
  ((Statement.pass none (Text.lines (b.text t).toList)).getD ([], none)).1.filterMap
    Statement.directive?

theorem directivesSaid_of_pass {t : Transport} {statements : List Statement}
    {i : Option OpenBlock}
    (h : Statement.pass none (Text.lines (b.text t).toList) = some (statements, i)) :
    b.directivesSaid t = statements.filterMap Statement.directive? := by
  rw [directivesSaid, h, Option.getD_some]

/-- The remotes among them. -/
def remotesSaid (b : Blueprint) (t : Transport) : List Directive :=
  (b.directivesSaid t).filter Directive.isRemote

/-- What the remotes of a text take that do not say otherwise. -/
def defaultsSaid (b : Blueprint) (t : Transport) : Config.Defaults :=
  Config.lastDefaults (b.directivesSaid t)

/-- Every connection comes of a remote of the text, in order. -/
theorem connections_of_profile (hp : b.profile .openvpn = .ok p) :
    (b.remotesSaid .openvpn).map (fun x => Config.connection (b.defaultsSaid .openvpn) x.args) =
      p.connections.map .ok := by
  obtain ⟨statements, options, hpass, -, hconvert⟩ := profile_eq_ok_iff.1 hp
  obtain ⟨d, q, hd, hq, rfl⟩ := Config.profile_openvpn_eq_ok_iff.1 hconvert
  rw [Config.foldl_add, List.nil_append] at hd hq
  rw [remotesSaid, defaultsSaid, directivesSaid_of_pass hpass, ← Config.eq_lastDefaults hd]
  exact (Config.of_parts hq).1

/-- UDP comes first in a profile exactly if it does among the remotes of its text. -/
theorem udpFirst_connections_iff (hp : b.profile .openvpn = .ok p) :
    Connection.UdpFirst p.connections ↔ (b.remotesSaid .openvpn).Pairwise fun x y =>
      y.usesUdp (b.defaultsSaid .openvpn) → x.usesUdp (b.defaultsSaid .openvpn) := by
  have hmap := Directive.map_usesUdp (Config.forall₂_dials (connections_of_profile hp))
  have hconnections : Connection.UdpFirst p.connections ↔
      (p.connections.map (·.usesUdp)).Pairwise fun u v : Bool => v → u := by
    rw [List.pairwise_map]
    rfl
  rw [hconnections, hmap, List.pairwise_map]

/-- If the remotes of the text are those of the end points, the connections are as well. -/
theorem connections_of_remotesSaid (hp : b.profile .openvpn = .ok p)
    (haddress : ∀ e ∈ b.endpoints, ∀ c ∈ e.address.toList, Text.isBlank c = false)
    (hprotocol : ∀ e ∈ b.endpoints, Text.IsWord e.protocol.toList)
    (hremotes : b.remotesSaid .openvpn = b.endpoints.map Endpoint.directive) :
    p.connections = b.endpoints.map Endpoint.connection := by
  have hok : Function.Injective (@Except.ok ConfigError Connection) := fun _ _ => Except.ok.inj
  refine List.map_injective_iff.2 hok ?_
  rw [← connections_of_profile hp, hremotes, List.map_map, List.map_map]
  refine List.map_congr_left fun e he => ?_
  rw [Function.comp_apply, directive_eq he (haddress e he) (hprotocol e he)]
  exact connection_eq he _

/-- Nothing but the lines of the gateway says a remote, if no general directive is one and the
certificates and the key stay inside of their blocks. -/
theorem remotesSaid_eq (hgeneral : ∀ m ∈ b.general, StartsDirective m.1 ∧ m.1 ≠ "remote")
    (hlines : b.IsLineByLine) (hsecrets : SecretsStayInside b.secrets) :
    b.remotesSaid .openvpn = b.endpoints.map Endpoint.directive := by
  have hpass := pass_text_of_startsDirective (fun m hm => (hgeneral m hm).1) hlines hsecrets
  have hfirst : (generalDirectives b.general).filter Directive.isRemote = [] :=
    filter_generalDirectives (fun m hm => decide_eq_false (hgeneral m hm).2) rfl
  have hsecond : (b.endpoints.map Endpoint.directive).filter Directive.isRemote =
      b.endpoints.map Endpoint.directive := by
    refine List.filter_eq_self.2 (List.forall_mem_map.2 fun e _ => ?_)
    rfl
  have hthird : clientDirectives.filter Directive.isRemote = [] := by decide
  rw [remotesSaid, directivesSaid_of_pass hpass, Statement.filterMap_directives, directivesRead,
    List.filter_append, List.filter_append, hfirst, hsecond, hthird, List.nil_append,
    List.append_nil]

/-- Every address is one of the two that an entry publishes. -/
theorem not_blank_of_mem_endpoints
    (haddress : ∀ c ∈ b.entry.ipAddress.toList, Text.isBlank c = false)
    (haddress6 : ∀ c ∈ b.entry.ipAddress6.toList, Text.isBlank c = false) :
    ∀ e ∈ b.endpoints, ∀ c ∈ e.address.toList, Text.isBlank c = false := by
  intro e he
  have hmem := (List.mem_filter.1 (of_mem_endpoints he).1).1
  rcases List.mem_pair.1 hmem with heq | heq
  · rwa [heq]
  · rwa [heq]

/-- Words do not break a line. -/
theorem isLineByLine_of_words
    (haddress : ∀ e ∈ b.endpoints, ∀ c ∈ e.address.toList, Text.isBlank c = false)
    (hprotocol : ∀ e ∈ b.endpoints, Text.IsWord e.protocol.toList) : b.IsLineByLine :=
  fun e he => ⟨Text.newline_not_mem (haddress e he), Text.newline_not_mem (hprotocol e he).2⟩

/-- When UDP comes first in the profile for plain OpenVPN of a client that prefers it: exactly if it
does among the remotes that are read from the text. Where these are the lines of the gateway, it
does exactly if there is no end point at all or if behind a protocol that counts as TCP no protocol
but `udp` counts as UDP. They are these lines if no general directive is a remote and the
certificates and the key stay inside of their blocks. -/
theorem profile_udpFirst_iff {general : Json.Members} {secrets : Secrets} {entry : GatewayEntry}
    {version : Int} {preferences : Preferences}
    (hmake : make general secrets entry version preferences = .ok b)
    (hversion : matrixVersion ≤ version) (hudp : preferences.prefersUdp)
    (haddress : ∀ c ∈ entry.ipAddress.toList, Text.isBlank c = false)
    (haddress6 : ∀ c ∈ entry.ipAddress6.toList, Text.isBlank c = false)
    (hprotocol : ∀ e ∈ b.endpoints, Text.IsWord e.protocol.toList)
    (hp : b.profile .openvpn = .ok p) :
    (Connection.UdpFirst p.connections ↔ (b.remotesSaid .openvpn).Pairwise fun x y =>
      y.usesUdp (b.defaultsSaid .openvpn) → x.usesUdp (b.defaultsSaid .openvpn)) ∧
    (b.remotesSaid .openvpn = b.endpoints.map Endpoint.directive →
      p.connections = b.endpoints.map Endpoint.connection ∧
      (Connection.UdpFirst p.connections ↔ ∀ e ∈ b.entryFor? .openvpn,
        usablePorts e.ports = [] ∨ entry.addresses = [] ∨ ReadsUdpFirst e.protocols)) ∧
    ((∀ m ∈ general, StartsDirective m.1 ∧ m.1 ≠ "remote") → SecretsStayInside secrets →
      b.remotesSaid .openvpn = b.endpoints.map Endpoint.directive) := by
  obtain ⟨rfl, rfl, rfl, rfl, rfl⟩ := of_make hmake
  have hblank := not_blank_of_mem_endpoints haddress haddress6
  refine ⟨udpFirst_connections_iff hp, fun hremotes => ?_, fun hgeneral hsecrets => ?_⟩
  · have hconnections := connections_of_remotesSaid hp hblank hprotocol hremotes
    refine ⟨hconnections, ?_⟩
    rw [hconnections]
    exact udpFirst_endpoints_iff hversion hudp
  · exact remotesSaid_eq hgeneral (isLineByLine_of_words hblank hprotocol) hsecrets

/-! ### Names that count as UDP -/

namespace MixedProtocols

/-- A gateway with one port and several protocols. -/
def entry (protocols : List String) : GatewayEntry where
  host := "a.example"
  ipAddress := "192.0.2.7"
  ipAddress6 := ""
  location := ""
  capabilities := some (.object [("transport", .array [.object [("type", .text "openvpn"),
    ("protocols", .array (protocols.map .text)), ("ports", .array [.text "443"])]])])

def preferences : Preferences := { prefersUdp := true }

def blueprint (protocols : List String) : Blueprint where
  general := []
  secrets := {}
  entry := entry protocols
  version := 3
  preferences := preferences
  matrix := [⟨some .openvpn, protocols, ["443"], none⟩]

/-- UDP of two kinds, both of which come before TCP. -/
def inOrder : List String := ["udp6", "tcp", "udp"]

/-- UDP of another kind, which is published after TCP. -/
def outOfOrder : List String := ["tcp", "udp6"]

theorem exists_profile (protocols : List String)
    (hwords : ∀ e ∈ (blueprint protocols).endpoints, Text.IsWord e.protocol.toList) :
    ∃ p, (blueprint protocols).profile .openvpn = .ok p := by
  have haddress : ∀ c ∈ "192.0.2.7".toList, Text.isBlank c = false := Text.not_blank_of_any rfl
  have hblank := not_blank_of_mem_endpoints (b := blueprint protocols) haddress nofun
  have hremotes : Statement.pass none (partLines ((blueprint protocols).remotes .openvpn)) =
      some (((blueprint protocols).endpoints.map Endpoint.directive).map .directive, none) := by
    rw [pass_remotes (isLineByLine_of_words hblank hwords), List.map_map]
    rfl
  have hgeneral : ∀ m ∈ (blueprint protocols).general, IsDirectiveName m.1 :=
    List.forall_mem_nil _
  obtain ⟨d, hd⟩ := Config.exists_defaults fun x hx => name_of_mem_directivesRead hgeneral hx
  obtain ⟨p, hp, -⟩ := exists_profile_of_empty rfl rfl hremotes hd
    (parts_directivesRead hgeneral hblank hwords d)
  exact ⟨p, hp⟩

end MixedProtocols

/-- Both kinds of UDP come first, the one of the name `udp` before the other. -/
theorem profile_udpFirst_iff_inOrder :
    ∃ p, make [] {} (MixedProtocols.entry MixedProtocols.inOrder) 3 MixedProtocols.preferences =
        .ok (MixedProtocols.blueprint MixedProtocols.inOrder) ∧
      (MixedProtocols.blueprint MixedProtocols.inOrder).profile .openvpn = .ok p ∧
      p.connections = [⟨"192.0.2.7", 443, true, none⟩, ⟨"192.0.2.7", 443, true, none⟩,
        ⟨"192.0.2.7", 443, false, none⟩] ∧ Connection.UdpFirst p.connections := by
  have hmake : make [] {} (MixedProtocols.entry MixedProtocols.inOrder) 3
      MixedProtocols.preferences = .ok (MixedProtocols.blueprint MixedProtocols.inOrder) := rfl
  obtain ⟨p, hp⟩ := MixedProtocols.exists_profile MixedProtocols.inOrder (by decide)
  obtain ⟨-, hudpFirst, hremotes⟩ := profile_udpFirst_iff hmake (by decide) rfl
    (Text.not_blank_of_any rfl) (Text.not_blank_of_any rfl) (by decide) hp
  obtain ⟨hconnections, hiff⟩ := hudpFirst (hremotes nofun (by decide))
  refine ⟨p, hmake, hp, hconnections, hiff.2 ?_⟩
  intro e he
  cases he
  exact .inr (.inr (by decide))

/-- With TCP published before a UDP of another name, TCP is dialled first. -/
theorem not_udpFirst_outOfOrder :
    (∀ q ∈ MixedProtocols.outOfOrder, Text.IsWord q.toList) ∧
    ∃ p, make [] {} (MixedProtocols.entry MixedProtocols.outOfOrder) 3
        MixedProtocols.preferences = .ok (MixedProtocols.blueprint MixedProtocols.outOfOrder) ∧
      (MixedProtocols.blueprint MixedProtocols.outOfOrder).profile .openvpn = .ok p ∧
      p.connections = [⟨"192.0.2.7", 443, false, none⟩, ⟨"192.0.2.7", 443, true, none⟩] ∧
      ¬ Connection.UdpFirst p.connections := by
  obtain ⟨p, hp⟩ := MixedProtocols.exists_profile MixedProtocols.outOfOrder (by decide)
  have hremotes := remotesSaid_eq (b := MixedProtocols.blueprint MixedProtocols.outOfOrder)
    nofun (by decide) (by decide)
  have hconnections : p.connections =
      [⟨"192.0.2.7", 443, false, none⟩, ⟨"192.0.2.7", 443, true, none⟩] :=
    connections_of_remotesSaid hp (not_blank_of_mem_endpoints (Text.not_blank_of_any rfl)
      (Text.not_blank_of_any rfl)) (by decide) hremotes
  refine ⟨by decide, p, rfl, hp, hconnections, ?_⟩
  rw [hconnections]
  decide

end Blueprint

end VpnDirectory
