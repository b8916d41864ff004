import VpnDirectory.Proofs.Capability
import VpnDirectory.Proofs.Gateway.Transports
import VpnDirectory.Proofs.Tunnel.RoundTrip

/-!
# End points that a gateway advertises

A matrix may have several entries for plain OpenVPN. What a gateway supports is asked of all of
them, while its remotes are those of the first one.

* `TransportEntry.Advertises` : the end points that an entry has for its gateway.
* `Blueprint.mem_endpoints_iff` : the end points of a gateway are those of its first entry, and
  `Blueprint.hasLine_text` : the line of each stands in the text.
* `Blueprint.KeepsEndpoints` : the lines of all entries do. `Blueprint.FirstCovers` : the first
  entry has the ports and protocols of every other.
* `Blueprint.mem_endpoints_of_hasLine` : a line of a text that is made of words is the one of an end
  point of the gateway, if no other part of the text has remotes.
* `Blueprint.keepsEndpoints_of_make` : the second is what the first takes.
-/

namespace VpnDirectory

/-- The end point is one that the entry has for this gateway: it has an address of the gateway, and
a protocol and a port of the entry; the port has to be one. -/
structure TransportEntry.Advertises (e : TransportEntry) (entry : GatewayEntry) (x : Endpoint) :
    Prop where
  isFor : e.isFor .openvpn
  address : x.address ∈ entry.addresses
  portText : x.portText ∈ e.ports
  port : Port.ofText? x.portText = some x.port
  protocol : x.protocol ∈ e.protocols

namespace Endpoint

variable {x y : Endpoint}

/-- The remote is made of words. -/
structure IsPlain (x : Endpoint) : Prop where
  address : Text.IsWord x.address.toList
  portText : Text.IsWord x.portText.toList
  protocol : Text.IsWord x.protocol.toList

theorem words_line (hx : x.IsPlain) : Text.words x.line.toList =
    ["remote".toList, x.address.toList, x.portText.toList, x.protocol.toList] := by
  rw [line, Blueprint.toList_remoteLine, Text.words_word_space (by decide),
    Text.words_word_space hx.address, Text.words_word_space hx.portText,
    Text.words_of_isWord hx.protocol]

/-- A remote of words is read from its line. -/
theorem texts_eq_of_line_eq (hx : x.IsPlain) (hy : y.IsPlain) (h : x.line.toList = y.line.toList) :
    x.address = y.address ∧ x.portText = y.portText ∧ x.protocol = y.protocol := by
  have hwords := words_line hx
  rw [h, words_line hy] at hwords
  obtain ⟨haddress, hport, hprotocol⟩ :
      y.address = x.address ∧ y.portText = x.portText ∧ y.protocol = x.protocol := by
    simpa [String.toList_inj] using hwords
  exact ⟨haddress.symm, hport.symm, hprotocol.symm⟩

theorem not_mem_line (hx : x.IsPlain) {c : Char} (hc : Text.isBlank c) (hspace : c ≠ ' ') :
    c ∉ x.line.toList := by
  have hword {w : List Char} (hw : Text.IsWord w) : c ∉ w := fun hmem => by
    rw [hw.2 c hmem] at hc
    cases hc
  have hremote : c ∉ "remote".toList := hword (by decide)
  rw [line, Blueprint.toList_remoteLine]
  simp only [List.mem_append, List.mem_cons, not_or]
  exact ⟨hremote, hspace, hword hx.address, hspace, hword hx.portText, hspace, hword hx.protocol⟩

theorem remote_prefix_line (x : Endpoint) : "remote ".toList <+: x.line.toList := by
  rw [line, Blueprint.toList_remoteLine]
  exact ⟨_, rfl⟩

theorem line_ne_nil (x : Endpoint) : x.line.toList ≠ [] := by
  obtain ⟨rest, hrest⟩ := remote_prefix_line x
  simp [← hrest]

end Endpoint

namespace Blueprint

variable {b : Blueprint} {e first : TransportEntry} {x : Endpoint}

/-! ### The first entry -/

theorem isFor_of_mem_entryFor? {t : Transport} (h : e ∈ b.entryFor? t) : e.isFor t := by
  rw [Option.mem_def, entryFor?] at h
  simpa using List.find?_some h

/-- The end points of a gateway are those that its first entry advertises. -/
theorem mem_endpoints_iff (hversion : matrixVersion ≤ b.version) :
    x ∈ b.endpoints ↔ ∃ first ∈ b.entryFor? .openvpn, first.Advertises b.entry x := by
  rw [endpoints, if_neg (Int.not_lt.2 hversion)]
  cases hfirst : b.entryFor? .openvpn with
  | none => simp
  | some first =>
    have hfor := isFor_of_mem_entryFor? hfirst
    simp only [Option.mem_some_iff, exists_eq_left']
    -- ports and protocols go by turns in one way or the other
    split
    all_goals
      simp only [List.mem_flatMap, List.mem_map, mem_numberedPorts]
      constructor
    · rintro ⟨protocol, hprotocol, p, ⟨hport, hnumber⟩, address, haddress, rfl⟩
      refine ⟨hfor, haddress, hport, hnumber, ?_⟩
      exact ((List.filter_append_perm _ _).mem_iff).1 hprotocol
    · rintro ⟨-, haddress, hport, hnumber, hprotocol⟩
      refine ⟨x.protocol, ?_, (x.portText, x.port), ⟨hport, hnumber⟩, x.address, haddress, rfl⟩
      exact ((List.filter_append_perm _ _).mem_iff).2 hprotocol
    · rintro ⟨p, ⟨hport, hnumber⟩, protocol, hprotocol, address, haddress, rfl⟩
      exact ⟨hfor, haddress, hport, hnumber, hprotocol⟩
    · rintro ⟨-, haddress, hport, hnumber, hprotocol⟩
      exact ⟨(x.portText, x.port), ⟨hport, hnumber⟩, x.protocol, hprotocol, x.address, haddress,
        rfl⟩

/-- The line of every end point stands in the text. -/
theorem hasLine_text (hx : x ∈ b.endpoints) :
    Text.HasLine (b.text .openvpn).toList x.line.toList := by
  have hline : x.line.toList ∈ (b.remotes .openvpn).map String.toList :=
    List.mem_map_of_mem (remotes_openvpn b ▸ List.mem_map_of_mem hx)
  have hpart : Text.HasLine (joinLines (b.remotes .openvpn)).toList x.line.toList := by
    rw [toList_joinLines]
    exact Text.hasLine_unlines hline
  refine Text.HasLine.trans ?_ hpart
  rw [text, toList_joinLines]
  exact Text.hasLine_unlines (by simp)

/-! ### The other entries -/

/-- The line of every end point that an entry advertises stands in the text. -/
def KeepsEndpoints (b : Blueprint) : Prop :=
  ∀ e ∈ b.matrix, ∀ x, e.Advertises b.entry x →
    Text.HasLine (b.text .openvpn).toList x.line.toList

/-- The first entry for plain OpenVPN has the ports and protocols of each of them, unless one has no
port or no protocol at all. -/
def FirstCovers (b : Blueprint) : Prop :=
  ∀ e ∈ b.matrix, e.isFor .openvpn → usablePorts e.ports = [] ∨ e.protocols = [] ∨
    ∃ first ∈ b.entryFor? .openvpn,
      usablePorts e.ports ⊆ usablePorts first.ports ∧ e.protocols ⊆ first.protocols

instance (b : Blueprint) : Decidable b.FirstCovers := inferInstanceAs (Decidable (∀ e ∈ _, _))

theorem mem_usablePorts_iff {ports : List String} {s : String} :
    s ∈ usablePorts ports ↔ s ∈ ports ∧ ∃ p, Port.ofText? s = some p := by
  rw [usablePorts, List.mem_filter, Option.isSome_iff_exists]

/-- Every entry for plain OpenVPN with a port and a protocol advertises an end point at each
address. -/
theorem advertises_of_mem {port protocol address : String} (hfor : e.isFor .openvpn)
    (hport : port ∈ usablePorts e.ports) (hprotocol : protocol ∈ e.protocols)
    (haddress : address ∈ b.entry.addresses) :
    ∃ p, e.Advertises b.entry ⟨address, port, p, protocol⟩ := by
  obtain ⟨hmem, p, hp⟩ := mem_usablePorts_iff.1 hport
  exact ⟨p, hfor, haddress, hmem, hp, hprotocol⟩

/-- The first entry has the end points of every other if it covers them. -/
theorem mem_endpoints_of_firstCovers (hversion : matrixVersion ≤ b.version) (h : b.FirstCovers)
    (he : e ∈ b.matrix) (hx : e.Advertises b.entry x) : x ∈ b.endpoints := by
  have hport : x.portText ∈ usablePorts e.ports :=
    mem_usablePorts_iff.2 ⟨hx.portText, x.port, hx.port⟩
  rcases h e he hx.isFor with hnil | hnil | ⟨first, hfirst, hports, hprotocols⟩
  · rw [hnil] at hport
    cases hport
  · have hprotocol := hx.protocol
    rw [hnil] at hprotocol
    cases hprotocol
  · obtain ⟨hmem, -⟩ := mem_usablePorts_iff.1 (hports hport)
    exact (mem_endpoints_iff hversion).2 ⟨first, hfirst, isFor_of_mem_entryFor? hfirst, hx.address,
      hmem, hx.port, hprotocols hx.protocol⟩

/-- Without an address there is nothing to advertise. -/
theorem keepsEndpoints_of_firstCovers (hversion : matrixVersion ≤ b.version)
    (h : b.entry.addresses = [] ∨ b.FirstCovers) : b.KeepsEndpoints := by
  intro e he x hx
  rcases h with hnil | h
  · have haddress := hx.address
    rw [hnil] at haddress
    cases haddress
  · exact hasLine_text (mem_endpoints_of_firstCovers hversion h he hx)

/-! ### Lines of other parts -/

/-- No line of the general directives and of the certificates starts like a remote. -/
def OnlyGatewayHasRemotes (b : Blueprint) : Prop :=
  ∀ l ∈ partLines b.generalLines ++ partLines b.secretLines, ¬ "remote ".toList <+: l

instance (b : Blueprint) : Decidable b.OnlyGatewayHasRemotes :=
  inferInstanceAs (Decidable (∀ l ∈ _, _))

/-- The addresses of a gateway and what its entries for plain OpenVPN publish as protocols are
words. -/
structure IsWorded (b : Blueprint) : Prop where
  addresses : ∀ address ∈ b.entry.addresses, Text.IsWord address.toList
  protocols : ∀ e ∈ b.matrix, e.isFor .openvpn → ∀ protocol ∈ e.protocols,
    Text.IsWord protocol.toList

theorem IsWorded.isPlain (h : b.IsWorded) (he : e ∈ b.matrix) (hx : e.Advertises b.entry x) :
    x.IsPlain where
  address := h.addresses _ hx.address
  portText := Port.isWord_of_ofText? hx.port
  protocol := h.protocols e he hx.isFor _ hx.protocol

/-- The end points of a gateway are made of words. -/
theorem IsWorded.isPlain_of_mem (h : b.IsWorded) (hversion : matrixVersion ≤ b.version)
    (hx : x ∈ b.endpoints) : x.IsPlain := by
  obtain ⟨first, hfirst, hadvertises⟩ := (mem_endpoints_iff hversion).1 hx
  exact h.isPlain (List.mem_of_find?_eq_some hfirst) hadvertises

theorem linesBefore_text (b : Blueprint) (t : Transport) :
    Text.linesBefore (b.text t).toList =
      partLines b.generalLines ++ (partLines (b.remotes t) ++ (partLines clientLines ++
        partLines b.secretLines)) := by
  rw [text, toList_joinLines, Text.linesBefore_unlines (by simp)]
  simp [partLines]

/-- A line of words that stands in the text is the one of an end point of the gateway. -/
theorem mem_endpoints_of_hasLine (hversion : matrixVersion ≤ b.version) (hwords : b.IsWorded)
    (honly : b.OnlyGatewayHasRemotes) (hx : x.IsPlain)
    (hline : Text.HasLine (b.text .openvpn).toList x.line.toList) :
    ∃ y ∈ b.endpoints, y.address = x.address ∧ y.portText = x.portText ∧
      y.protocol = x.protocol := by
  have hremote := x.remote_prefix_line
  have hmem := hline.mem_linesBefore x.line_ne_nil (Endpoint.not_mem_line hx rfl (by decide))
    (Endpoint.not_mem_line hx rfl (by decide))
  have hclient : ∀ l ∈ partLines clientLines, ¬ "remote ".toList <+: l := by decide
  have hgateway : x.line.toList ∈ partLines (b.remotes .openvpn) := by
    rw [linesBefore_text] at hmem
    simp only [List.mem_append] at hmem
    rcases hmem with h | h | h | h
    · exact absurd hremote (honly _ (List.mem_append_left _ h))
    · exact h
    · exact absurd hremote (hclient _ h)
    · exact absurd hremote (honly _ (List.mem_append_right _ h))
  have hplain : ∀ y ∈ b.endpoints, y.IsPlain := fun y hy => hwords.isPlain_of_mem hversion hy
  by_cases hnil : b.endpoints = []
  · -- an empty line takes the place of the remotes
    rw [remotes_openvpn, hnil] at hgateway
    exact absurd (List.mem_singleton.1 hgateway) x.line_ne_nil
  · have hlines : b.IsLineByLine := fun y hy => ⟨Text.newline_not_mem (hplain y hy).address.2,
      Text.newline_not_mem (hplain y hy).protocol.2⟩
    rw [partLines_remotes hlines hnil, List.mem_map] at hgateway
    obtain ⟨y, hy, heq⟩ := hgateway
    rw [Text.chomp_of_not_mem (Endpoint.not_mem_line (hplain y hy) rfl (by decide))] at heq
    exact ⟨y, hy, Endpoint.texts_eq_of_line_eq (hplain y hy) hx heq⟩

/-- Nothing else is kept: what an entry advertises has to be covered by the first one. -/
theorem firstCovers_of_keepsEndpoints (hversion : matrixVersion ≤ b.version) (hwords : b.IsWorded)
    (honly : b.OnlyGatewayHasRemotes) (h : b.KeepsEndpoints) :
    b.entry.addresses = [] ∨ b.FirstCovers := by
  by_cases haddresses : b.entry.addresses = []
  · exact .inl haddresses
  · obtain ⟨address, haddress⟩ := List.exists_mem_of_ne_nil _ haddresses
    refine .inr fun e he hfor => ?_
    -- the first entry has every port together with every protocol
    have hkept {port protocol : String} (hport : port ∈ usablePorts e.ports)
        (hprotocol : protocol ∈ e.protocols) : ∃ first ∈ b.entryFor? .openvpn,
          port ∈ usablePorts first.ports ∧ protocol ∈ first.protocols := by
      obtain ⟨p, hx⟩ := advertises_of_mem hfor hport hprotocol haddress
      obtain ⟨y, hy, -, rfl, rfl⟩ := mem_endpoints_of_hasLine hversion hwords honly
        (hwords.isPlain he hx) (h e he _ hx)
      obtain ⟨first, hfirst, hadvertises⟩ := (mem_endpoints_iff hversion).1 hy
      exact ⟨first, hfirst, mem_usablePorts_iff.2 ⟨hadvertises.portText, _, hadvertises.port⟩,
        hadvertises.protocol⟩
    by_cases hports : usablePorts e.ports = []
    · exact .inl hports
    by_cases hprotocols : e.protocols = []
    · exact .inr (.inl hprotocols)
    obtain ⟨port, hport⟩ := List.exists_mem_of_ne_nil _ hports
    obtain ⟨protocol, hprotocol⟩ := List.exists_mem_of_ne_nil _ hprotocols
    obtain ⟨first, hfirst, -, -⟩ := hkept hport hprotocol
    refine .inr (.inr ⟨first, hfirst, fun port' hport' => ?_, fun protocol' hprotocol' => ?_⟩)
    · obtain ⟨first', hfirst', hmem, -⟩ := hkept hport' hprotocol
      rwa [Option.mem_unique hfirst hfirst']
    · obtain ⟨first', hfirst', -, hmem⟩ := hkept hport hprotocol'
      rwa [Option.mem_unique hfirst hfirst']

/-- A protocol that is supported because of an entry with a port is offered by a remote, if the
first entry covers the others. -/
theorem exists_endpoint_of_supports (hversion : matrixVersion ≤ b.version) (h : b.FirstCovers)
    (haddresses : b.entry.addresses ≠ []) (he : e ∈ b.matrix) {p : Protocol}
    (hsupports : e.supports .openvpn p) (hports : usablePorts e.ports ≠ []) :
    ∃ x ∈ b.endpoints, x.protocol = p.name := by
  obtain ⟨htransport, hprotocol⟩ := TransportEntry.supports_iff.1 hsupports
  have hfor : e.isFor .openvpn := by rw [TransportEntry.isFor, htransport, beq_self_eq_true]
  obtain ⟨port, hport⟩ := List.exists_mem_of_ne_nil _ hports
  obtain ⟨address, haddress⟩ := List.exists_mem_of_ne_nil _ haddresses
  obtain ⟨n, hx⟩ := advertises_of_mem hfor hport hprotocol haddress
  exact ⟨_, mem_endpoints_of_firstCovers hversion h he hx, rfl⟩

/-- What becomes of the end points that the entries of a matrix advertise. Those of the first entry
for plain OpenVPN are the ones that the gateway has, and their lines stand in the text. Those of the
other entries are kept as well if the first one covers them, and then every protocol that is
supported by an entry with a port is offered. They are not kept otherwise, if all of them are made
of words and no other part of the text has remotes. -/
theorem keepsEndpoints_of_make {general : Json.Members} {secrets : Secrets} {entry : GatewayEntry}
    {version : Int} {preferences : Preferences}
    (hmake : make general secrets entry version preferences = .ok b)
    (hversion : matrixVersion ≤ version) :
    (∀ x, x ∈ b.endpoints ↔ ∃ first ∈ b.entryFor? .openvpn, first.Advertises entry x) ∧
    (∀ x ∈ b.endpoints, Text.HasLine (b.text .openvpn).toList x.line.toList) ∧
    (entry.addresses = [] ∨ b.FirstCovers → b.KeepsEndpoints ∧
      ∀ e ∈ b.matrix, ∀ p, e.supports .openvpn p → usablePorts e.ports ≠ [] →
        entry.addresses ≠ [] → ∃ x ∈ b.endpoints, x.protocol = p.name) ∧
    (b.IsWorded → b.OnlyGatewayHasRemotes → b.KeepsEndpoints →
      entry.addresses = [] ∨ b.FirstCovers) := by
  obtain ⟨-, -, rfl, rfl, -⟩ := of_make hmake
  refine ⟨fun x => mem_endpoints_iff hversion, fun x hx => hasLine_text hx, fun h => ?_,
    fun hwords honly h => firstCovers_of_keepsEndpoints hversion hwords honly h⟩
  refine ⟨keepsEndpoints_of_firstCovers hversion h, fun e he p hsupports hports haddresses => ?_⟩
  exact exists_endpoint_of_supports hversion (h.resolve_left haddresses) haddresses he hsupports
    hports

/-! ### Matrices with two entries -/

namespace TwoEntries

/-- An element for plain OpenVPN, and how it is read. -/
def element (protocols ports : List String) : Json := .object [("type", .text "openvpn"),
  ("protocols", .array (protocols.map .text)), ("ports", .array (ports.map .text))]

def offering (protocols ports : List String) : TransportEntry :=
  ⟨some .openvpn, protocols, ports, none⟩

def capabilities (elements : List Json) : Json := .object [("transport", .array elements)]

def item (elements : List Json) : Json := .object [("host", .text "a.example"),
  ("ip_address", .text "192.0.2.7"), ("capabilities", capabilities elements)]

def entry (elements : List Json) : GatewayEntry where
  host := "a.example"
  ipAddress := "192.0.2.7"
  ipAddress6 := ""
  location := ""
  capabilities := some (capabilities elements)

def service : Service where
  version := 3

def blueprint (elements : List Json) (matrix : List TransportEntry) : Blueprint :=
  service.blueprint {} (entry elements) {} matrix

/-- The second entry has nothing that the first one has not. -/
def narrowing : List Json := [element ["tcp", "udp"] ["443", "1194"], element ["udp"] ["1194", "x"]]

def narrowingMatrix : List TransportEntry :=
  [offering ["tcp", "udp"] ["443", "1194"], offering ["udp"] ["1194", "x"]]

/-- Each entry has a protocol and a port of its own. -/
def disjoint : List Json := [element ["udp"] ["1194"], element ["tcp"] ["443"]]

def disjointMatrix : List TransportEntry := [offering ["udp"] ["1194"], offering ["tcp"] ["443"]]

theorem isWorded_disjoint : (blueprint disjoint disjointMatrix).IsWorded where
  addresses := by decide
  protocols := by decide

/-- The gateway with two entries that have nothing in common. -/
theorem exists_build_disjoint : ∃ g, Gateway.build service {} (item disjoint) {} = .ok g := by
  have hremotes : Statement.pass none
      (partLines ((blueprint disjoint disjointMatrix).remotes .openvpn)) =
        some ([⟨"remote", ["192.0.2.7", "1194", "udp"]⟩].map .directive, none) := by
    rw [remotes_openvpn]
    rfl
  obtain ⟨p, hp, -⟩ := exists_profile_of_empty rfl rfl hremotes rfl rfl
  exact Gateway.exists_build_iff.2 ⟨entry disjoint, _, p, rfl, rfl, hp⟩

end TwoEntries

/-- What the second entry advertises is in the text, because the first one advertises it as well. -/
theorem keepsEndpoints_of_make_narrowing :
    make [] {} (TwoEntries.entry TwoEntries.narrowing) 3 {} =
        .ok (TwoEntries.blueprint TwoEntries.narrowing TwoEntries.narrowingMatrix) ∧
      (TwoEntries.blueprint TwoEntries.narrowing TwoEntries.narrowingMatrix).KeepsEndpoints ∧
      (∃ x ∈ (TwoEntries.blueprint TwoEntries.narrowing TwoEntries.narrowingMatrix).endpoints,
        x.protocol = "udp") ∧
      ¬ (TwoEntries.blueprint TwoEntries.disjoint TwoEntries.disjointMatrix).KeepsEndpoints := by
  have hmake : make [] {} (TwoEntries.entry TwoEntries.narrowing) 3 {} =
      .ok (TwoEntries.blueprint TwoEntries.narrowing TwoEntries.narrowingMatrix) := rfl
  have hmake' : make [] {} (TwoEntries.entry TwoEntries.disjoint) 3 {} =
      .ok (TwoEntries.blueprint TwoEntries.disjoint TwoEntries.disjointMatrix) := rfl
  obtain ⟨-, -, hcovers, -⟩ := keepsEndpoints_of_make hmake (by decide)
  obtain ⟨-, -, -, hkept⟩ := keepsEndpoints_of_make hmake' (by decide)
  obtain ⟨hkeeps, hoffered⟩ := hcovers (.inr (by decide))
  refine ⟨hmake, hkeeps, ?_, fun h => ?_⟩
  · exact hoffered (TwoEntries.offering ["udp"] ["1194", "x"]) (by decide) .udp (by decide)
      (by decide) (by decide)
  · exact absurd (hkept TwoEntries.isWorded_disjoint (by decide) h) (by decide)

/-- A gateway that supports TCP because of its second entry, of which there is no remote. -/
theorem not_keepsEndpoints_disjoint : ∃ g p,
    Gateway.build TwoEntries.service {} (TwoEntries.item TwoEntries.disjoint) {} = .ok g ∧
      g.profile? .openvpn = some p ∧
      GatewayEntry.ofJson (TwoEntries.item TwoEntries.disjoint) =
        .ok (TwoEntries.entry TwoEntries.disjoint) ∧
      (TwoEntries.entry TwoEntries.disjoint).matrix = .ok TwoEntries.disjointMatrix ∧
      Capability.supports (TwoEntries.item TwoEntries.disjoint) .openvpn .tcp ∧
      (TwoEntries.offering ["tcp"] ["443"]).Advertises (TwoEntries.entry TwoEntries.disjoint)
        ⟨"192.0.2.7", "443", 443, "tcp"⟩ ∧
      ¬ Text.HasLine p.text.toList "remote 192.0.2.7 443 tcp".toList ∧
      ∀ x ∈ (TwoEntries.blueprint TwoEntries.disjoint TwoEntries.disjointMatrix).endpoints,
        x.protocol ≠ "tcp" := by
  obtain ⟨g, hg⟩ := TwoEntries.exists_build_disjoint
  obtain ⟨entry, b, hentry, hmake, hrepresents⟩ := Gateway.represents_of_build hg
  obtain ⟨p, hp⟩ := Option.isSome_iff_exists.1 ((g.mem_transports_iff .openvpn).1
    hrepresents.openvpn)
  have htext := (hrepresents.profiles _ _ hp).text
  obtain rfl : TwoEntries.entry TwoEntries.disjoint = entry := Except.ok.inj hentry
  obtain rfl : TwoEntries.blueprint TwoEntries.disjoint TwoEntries.disjointMatrix = b :=
    Except.ok.inj hmake
  have hadvertises : (TwoEntries.offering ["tcp"] ["443"]).Advertises
      (TwoEntries.entry TwoEntries.disjoint) ⟨"192.0.2.7", "443", 443, "tcp"⟩ :=
    ⟨by decide, by decide, by decide, by decide, by decide⟩
  have hudp : ∀ x ∈ (TwoEntries.blueprint TwoEntries.disjoint TwoEntries.disjointMatrix).endpoints,
      x.protocol ≠ "tcp" := by decide
  refine ⟨g, p, hg, hp, hentry, rfl, by decide, hadvertises, fun hline => ?_, hudp⟩
  rw [htext] at hline
  have hplain := TwoEntries.isWorded_disjoint.isPlain (by decide) hadvertises
  obtain ⟨y, hy, -, -, hprotocol⟩ := mem_endpoints_of_hasLine (by decide)
    TwoEntries.isWorded_disjoint (by decide) hplain hline
  exact hudp y hy hprotocol

end Blueprint

end VpnDirectory
