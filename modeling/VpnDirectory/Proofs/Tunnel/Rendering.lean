import VpnDirectory.Proofs.Net.Port
import VpnDirectory.Proofs.Tunnel.Conversion
import VpnDirectory.Proofs.Tunnel.Reading
import VpnDirectory.Tunnel.Blueprint

/-!
# The parts of a configuration text

* `Blueprint.endpoints` are the plain remotes of a gateway before they are written out, in the order
  of their lines: `Blueprint.remotes_openvpn`.
* `Blueprint.lines_text` : the lines of a configuration text are those of its four parts,
  `Blueprint.partLines`.
* `Blueprint.pass_remotes` : if no address and no protocol has a line feed, the lines of the gateway
  are read as one remote each.
* `Blueprint.pass_secretLines` : the certificates and the key are read as one block each, and
  `Blueprint.pass_lines_text` puts the parts together.
* `Blueprint.profile_eq_ok_iff` : when a text is read back into a profile.
-/

namespace VpnDirectory

/-- No line of the body closes a block of the tag. -/
def Line.StaysInside (tag body : String) : Prop :=
  ∀ l ∈ Text.lines body.toList, Text.trim l ≠ '<' :: '/' :: tag.toList ++ ['>']

instance (tag body : String) : Decidable (Line.StaysInside tag body) :=
  inferInstanceAs (Decidable (∀ l ∈ _, _))

/-! ### End points -/

/-- A plain remote of a gateway. -/
structure Endpoint where
  address : String
  /-- The port as published. -/
  portText : String
  port : Port
  protocol : String
  deriving DecidableEq, Repr

namespace Endpoint

variable (e : Endpoint)

/-- The line of the remote. -/
def line : String := Blueprint.remoteLine e.address e.portText (some e.protocol)

/-- The remote as it is read from its line. -/
def directive : Directive :=
  ⟨"remote", (Text.words (e.address.toList ++ ' ' :: (e.portText.toList ++
    ' ' :: e.protocol.toList))).map .ofList⟩

/-- The connection to the end point. -/
def connection : Connection where
  serverName := e.address
  serverPort := e.port
  usesUdp := Config.isUdp e.protocol

end Endpoint

namespace Blueprint

/-- The texts among these that are ports, with the ports. -/
def numberedPorts (ports : List String) : List (String × Port) :=
  ports.filterMap fun s => (Port.ofText? s).map fun p => (s, p)

/-- UDP first, and all other protocols in their order. -/
def udpFirst (protocols : List String) : List String :=
  protocols.filter (· == "udp") ++ protocols.filter (· != "udp")

variable (b : Blueprint)

/-- The plain remotes of the gateway. In early versions every protocol of a port follows the port;
with a matrix every address follows its protocol as well, and with UDP preferred the protocols come
before the ports. -/
def endpoints : List Endpoint :=
  if b.version < matrixVersion then
    if b.entry.ipAddress = "" then []
    else (numberedPorts b.entry.flat.ports).flatMap fun p =>
      b.entry.flat.protocols.map fun protocol => ⟨b.entry.ipAddress, p.1, p.2, protocol⟩
  else match b.entryFor? .openvpn with
  | none => []
  | some e =>
    if b.preferences.prefersUdp then
      (udpFirst e.protocols).flatMap fun protocol => (numberedPorts e.ports).flatMap fun p =>
        b.entry.addresses.map fun address => ⟨address, p.1, p.2, protocol⟩
    else
      (numberedPorts e.ports).flatMap fun p => e.protocols.flatMap fun protocol =>
        b.entry.addresses.map fun address => ⟨address, p.1, p.2, protocol⟩

theorem usablePorts_eq (ports : List String) :
    usablePorts ports = (numberedPorts ports).map (·.1) := by
  induction ports with
  | nil => rfl
  | cons s ports ih =>
    rw [usablePorts] at ih
    cases h : Port.ofText? s <;> simp [usablePorts, numberedPorts, h, ih]

theorem mem_numberedPorts {ports : List String} {p : String × Port} :
    p ∈ numberedPorts ports ↔ p.1 ∈ ports ∧ Port.ofText? p.1 = some p.2 := by
  obtain ⟨s, n⟩ := p
  simp only [numberedPorts, List.mem_filterMap, Option.map_eq_some_iff, Prod.mk.injEq]
  constructor
  · rintro ⟨t, ht, m, hm, rfl, rfl⟩
    exact ⟨ht, hm⟩
  · rintro ⟨hs, hn⟩
    exact ⟨s, hs, n, hn, rfl, rfl⟩

/-- The lines of the gateway for plain OpenVPN are those of its end points. -/
theorem remotes_openvpn : b.remotes .openvpn = b.endpoints.map Endpoint.line := by
  rw [remotes, endpoints]
  split
  · rw [flatRemotes]
    split
    · rfl
    · simp [usablePorts_eq, List.flatMap_map, List.map_flatMap, Function.comp_def, Endpoint.line]
  · rw [if_neg (by decide), openvpnRemotes]
    cases b.entryFor? .openvpn with
    | none => rfl
    | some e =>
      dsimp only
      split
      · simp [remotesOf, udpFirst, usablePorts_eq, List.flatMap_map, List.map_flatMap,
          Function.comp_def, Endpoint.line]
      · simp [usablePorts_eq, List.flatMap_map, List.map_flatMap, Function.comp_def, Endpoint.line]

variable {b} {e : Endpoint}

theorem remotes_openvpn_of_matrix (hversion : matrixVersion ≤ b.version) :
    b.remotes .openvpn = b.openvpnRemotes := by
  unfold remotes
  rw [if_neg (Int.not_lt.2 hversion), if_neg (by decide)]

/-- An end point has one of the addresses of the gateway, and its port is the number of its text. -/
theorem of_mem_endpoints (h : e ∈ b.endpoints) :
    e.address ∈ b.entry.addresses ∧ Port.ofText? e.portText = some e.port := by
  rw [endpoints] at h
  split at h
  · split at h
    · simp at h
    · next haddress =>
      simp only [List.mem_flatMap, List.mem_map, mem_numberedPorts] at h
      obtain ⟨p, hp, protocol, -, rfl⟩ := h
      exact ⟨by simp [GatewayEntry.addresses, haddress], hp.2⟩
  · split at h
    · simp at h
    · split at h
      all_goals
        simp only [List.mem_flatMap, List.mem_map, mem_numberedPorts] at h
      · obtain ⟨protocol, -, p, hp, address, haddress, rfl⟩ := h
        exact ⟨haddress, hp.2⟩
      · obtain ⟨p, hp, protocol, -, address, haddress, rfl⟩ := h
        exact ⟨haddress, hp.2⟩

/-! ### Lines of the parts -/

/-- The lines of a part, which the next part follows. -/
def partLines (lines : List String) : List (List Char) :=
  Text.linesBefore (joinLines lines).toList

theorem toList_joinLines (lines : List String) :
    (joinLines lines).toList = Text.unlines (lines.map String.toList) := by
  rw [joinLines, String.toList_ofList]

theorem partLines_of_ne_nil {lines : List String} (h : lines ≠ []) :
    partLines lines = lines.flatMap fun l => Text.linesBefore l.toList := by
  rw [partLines, toList_joinLines, Text.linesBefore_unlines (by simpa using h), List.flatMap_map]

/-- Texts without line feeds are one line each. -/
theorem partLines_of_not_mem {lines : List String} (hne : lines ≠ [])
    (h : ∀ l ∈ lines, '\n' ∉ l.toList) :
    partLines lines = lines.map fun l => Text.chomp l.toList := by
  rw [partLines_of_ne_nil hne, List.map_eq_flatMap]
  exact List.flatMap_congr fun l hl => Text.linesBefore_of_not_mem (h l hl)

/-- The lines of a configuration text are those of its four parts. -/
theorem lines_text (b : Blueprint) (t : Transport) :
    Text.lines (b.text t).toList =
      partLines b.generalLines ++ (partLines (b.remotes t) ++ (partLines clientLines ++
        partLines b.secretLines)) := by
  -- no line feed follows the last part
  have hsecrets : Text.lines (joinLines b.secretLines).toList = partLines b.secretLines := by
    obtain ⟨front, hfront⟩ : ∃ front, b.secretLines = front ++ ["</" ++ "cert" ++ ">"] :=
      ⟨blockLines "ca" b.secrets.caCert ++ blockLines "key" b.secrets.privateKey ++
        ["<" ++ "cert" ++ ">", b.secrets.vpnCertificate], by simp [secretLines, blockLines]⟩
    rw [partLines_of_ne_nil (by simp [hfront]), toList_joinLines, hfront, List.map_append,
      List.map_singleton, Text.lines_unlines_concat, List.flatMap_append, List.flatMap_map]
    rfl
  rw [text, toList_joinLines]
  simp only [List.map_cons, List.map_nil, Text.unlines_cons_cons, Text.lines_append_newline]
  rw [Text.unlines, hsecrets]
  rfl

/-! ### Reading the parts -/

theorem toList_remoteLine (address port protocol : String) :
    (remoteLine address port (some protocol)).toList = "remote".toList ++
      ' ' :: (address.toList ++ ' ' :: (port.toList ++ ' ' :: protocol.toList)) := by
  simp [remoteLine]

/-- Whatever a remote is made of, its line is read as a remote. -/
theorem ofChars_line (e : Endpoint) : Line.ofChars e.line.toList = .directive e.directive := by
  rw [Endpoint.line, toList_remoteLine, Line.ofChars_word_space (by decide) (by decide)]
  rfl

theorem newline_not_mem_line (he : e ∈ b.endpoints) (haddress : '\n' ∉ e.address.toList)
    (hprotocol : '\n' ∉ e.protocol.toList) : '\n' ∉ e.line.toList := by
  have hport : '\n' ∉ e.portText.toList :=
    Text.not_mem_of_visible (by decide) (Port.visible_of_ofText? (of_mem_endpoints he).2)
  rw [Endpoint.line, toList_remoteLine]
  simp [haddress, hport, hprotocol]

/-- Neither an address nor a protocol of the gateway breaks a line. -/
def IsLineByLine (b : Blueprint) : Prop :=
  ∀ e ∈ b.endpoints, '\n' ∉ e.address.toList ∧ '\n' ∉ e.protocol.toList

instance (b : Blueprint) : Decidable b.IsLineByLine := inferInstanceAs (Decidable (∀ e ∈ _, _))

theorem partLines_remotes (h : b.IsLineByLine) (hne : b.endpoints ≠ []) :
    partLines (b.remotes .openvpn) = b.endpoints.map fun e => Text.chomp e.line.toList := by
  rw [remotes_openvpn, partLines_of_not_mem (by simpa using hne), List.map_map]
  · rfl
  · intro l hl
    obtain ⟨e, he, rfl⟩ := List.mem_map.1 hl
    exact newline_not_mem_line he (h e he).1 (h e he).2

/-- The lines of the gateway are read as one remote each, if nothing in them breaks a line. -/
theorem pass_remotes (h : b.IsLineByLine) :
    Statement.pass none (partLines (b.remotes .openvpn)) =
      some (b.endpoints.map fun e => .directive e.directive, none) := by
  by_cases hnil : b.endpoints = []
  · rw [remotes_openvpn, hnil]
    rfl
  · rw [partLines_remotes h hnil]
    exact Statement.pass_directives fun e _ => by rw [Line.ofChars_chomp, ofChars_line]

/-- Without lines of the gateway there is an empty one, which says nothing. -/
theorem pass_of_remotes_eq_nil {t : Transport} (h : b.remotes t = []) :
    Statement.pass none (partLines (b.remotes t)) =
      some (([] : List Directive).map .directive, none) := by
  rw [h]
  rfl

/-- Directives that every client has. -/
def clientDirectives : List Directive :=
  [⟨"remote-cert-tls", ["server"]⟩, ⟨"persist-tun", []⟩, ⟨"auth-retry", ["nointeract"]⟩]

theorem pass_clientLines : Statement.pass none (partLines clientLines) =
    some (clientDirectives.map .directive, none) := rfl

/-- A text between its tags is read as a block, unless one of its lines closes it. -/
theorem pass_blockLines {tag body : String} (htag : '\n' ∉ tag.toList ∧ '\r' ∉ tag.toList)
    (hopening : Line.ofChars ('<' :: tag.toList ++ ['>']) = .opening tag.toList)
    (hclosing : Line.closes tag.toList ('<' :: '/' :: tag.toList ++ ['>']))
    (h : Line.StaysInside tag body) :
    Statement.pass none ((blockLines tag body).flatMap fun l => Text.linesBefore l.toList) =
      some ([.block tag (.ofList (Text.plainEnds body.toList))], none) := by
  have hfirst : Text.linesBefore ("<" ++ tag ++ ">").toList = ['<' :: tag.toList ++ ['>']] := by
    rw [Text.linesBefore_of_not_mem (by simp [htag.1]), Text.chomp_of_not_mem (by simp [htag.2])]
    simp
  have hlast : Text.linesBefore ("</" ++ tag ++ ">").toList =
      ['<' :: '/' :: tag.toList ++ ['>']] := by
    rw [Text.linesBefore_of_not_mem (by simp [htag.1]), Text.chomp_of_not_mem (by simp [htag.2])]
    simp
  have hbody : ∀ l ∈ Text.linesBefore body.toList, Line.closes tag.toList l = false := by
    intro l hl
    rw [Line.closes, beq_eq_false_iff_ne]
    -- the end of the body is followed by a line feed, which can add an empty line
    rcases Text.exists_trim_eq_of_mem_linesBefore hl with rfl | ⟨m, hm, htrim⟩
    · exact fun hnil => nomatch hnil
    · rw [← htrim]
      exact h m hm
  have hblock := Statement.pass_block hopening hbody hclosing
  rw [Text.unlines_linesBefore, String.ofList_toList] at hblock
  rw [blockLines]
  simpa only [List.flatMap_cons, List.flatMap_nil, List.append_nil, hfirst, hlast,
    List.cons_append, List.nil_append] using hblock

/-- The blocks of the certificates and the key, in order. -/
def secretBlocks (secrets : Secrets) : List (String × String) := [
  ("ca", .ofList (Text.plainEnds secrets.caCert.toList)),
  ("key", .ofList (Text.plainEnds secrets.privateKey.toList)),
  ("cert", .ofList (Text.plainEnds secrets.vpnCertificate.toList))]

/-- Neither the certificates nor the key close the block that they stand in. -/
def SecretsStayInside (secrets : Secrets) : Prop :=
  Line.StaysInside "ca" secrets.caCert ∧ Line.StaysInside "key" secrets.privateKey ∧
    Line.StaysInside "cert" secrets.vpnCertificate

instance (secrets : Secrets) : Decidable (SecretsStayInside secrets) :=
  inferInstanceAs (Decidable (_ ∧ _))

/-- Certificates and key are read as one block each. -/
theorem pass_secretLines (h : SecretsStayInside b.secrets) :
    Statement.pass none (partLines b.secretLines) =
      some ((secretBlocks b.secrets).map fun e => .block e.1 e.2, none) := by
  obtain ⟨hca, hkey, hcert⟩ := h
  rw [partLines_of_ne_nil (by simp [secretLines, blockLines]), secretLines, List.flatMap_append,
    List.flatMap_append, List.append_assoc,
    Statement.pass_append_of (pass_blockLines (by decide) (by decide) (by decide) hca),
    Statement.pass_append_of (pass_blockLines (by decide) (by decide) (by decide) hkey),
    pass_blockLines (by decide) (by decide) (by decide) hcert]
  rfl

/-- A text is read part by part if its first two parts leave no block open. -/
theorem pass_lines_text {t : Transport} {s r : List Statement}
    (hgeneral : Statement.pass none (partLines b.generalLines) = some (s, none))
    (hremotes : Statement.pass none (partLines (b.remotes t)) = some (r, none))
    (hsecrets : SecretsStayInside b.secrets) :
    Statement.pass none (Text.lines (b.text t).toList) =
      some (s ++ (r ++ (clientDirectives.map .directive ++
        (secretBlocks b.secrets).map fun e => .block e.1 e.2)), none) := by
  rw [lines_text, Statement.pass_append_of hgeneral, Statement.pass_append_of hremotes,
    Statement.pass_append_of pass_clientLines, pass_secretLines hsecrets]
  rfl

/-! ### Reading the text back -/

/-- What the obfuscation client is told, which plain OpenVPN does without. -/
def optionsFor (b : Blueprint) (t : Transport) : Except ConfigError (Option ObfuscationOptions) :=
  if t.isPluggable then some <$> b.obfuscation else .ok none

/-- A text is read back into a profile when its lines leave no block open and, for a pluggable
transport, the obfuscation client has all it needs. -/
theorem profile_eq_ok_iff {t : Transport} {p : Profile} :
    b.profile t = .ok p ↔ ∃ statements options,
      Statement.pass none (Text.lines (b.text t).toList) = some (statements, none) ∧
        b.optionsFor t = .ok options ∧
          Config.profile { statements.foldl Config.add {} with text := b.text t } options t =
            .ok p := by
  rcases hfeed : Config.feed {} (b.text t) with ⟨config, outcome⟩
  have hprofile : b.profile t = outcome >>= fun _ => b.optionsFor t >>= fun options =>
      config.profile options t := by
    rw [profile, hfeed, optionsFor]
    by_cases ht : t.isPluggable
    · simp only [if_pos ht]
    · simp only [if_neg ht]
  rw [hprofile, bind_eq_ok_iff]
  simp only [bind_eq_ok_iff]
  constructor
  · rintro ⟨⟨⟩, rfl, options, hoptions, hp⟩
    obtain ⟨statements, hpass, rfl⟩ := Config.feed_eq_ok_iff.1 hfeed
    exact ⟨statements, options, hpass, hoptions, hp⟩
  · rintro ⟨statements, options, hpass, hoptions, hp⟩
    have hok := Config.feed_eq_ok_iff (c := {}).2 ⟨statements, hpass, rfl⟩
    obtain ⟨rfl, rfl⟩ := Prod.mk.inj (hfeed.symm.trans hok)
    exact ⟨(), rfl, options, hoptions, hp⟩

/-- A profile that is read back knows its transport. -/
theorem transport_of_profile {t : Transport} {p : Profile} (h : b.profile t = .ok p) :
    p.transport = t ∧ p.isPluggable = t.isPluggable := by
  obtain ⟨statements, options, -, -, hp⟩ := profile_eq_ok_iff.1 h
  exact Config.transport_of_profile hp

/-- The text of a provider without general directives and without secrets. -/
theorem pass_text_of_empty (hgeneral : b.general = []) (hsecrets : b.secrets = {})
    {t : Transport} {ds : List Directive}
    (hremotes : Statement.pass none (partLines (b.remotes t)) = some (ds.map .directive, none)) :
    Statement.pass none (Text.lines (b.text t).toList) =
      some ((⟨"client", []⟩ :: (ds ++ clientDirectives)).map .directive ++
        (secretBlocks {}).map fun e => .block e.1 e.2, none) := by
  have hclient : Statement.pass none (partLines b.generalLines) =
      some ([.directive ⟨"client", []⟩], none) := by
    rw [generalLines, hgeneral]
    rfl
  have hinside : SecretsStayInside b.secrets := by
    rw [hsecrets]
    decide
  rw [pass_lines_text hclient hremotes hinside, hsecrets]
  simp

/-- The profile of such a provider, if the lines of the gateway are directives that can be told
apart. -/
theorem exists_profile_of_empty (hgeneral : b.general = []) (hsecrets : b.secrets = {})
    {ds : List Directive} {d : Config.Defaults} {q : Config.Parts}
    (hremotes : Statement.pass none (partLines (b.remotes .openvpn)) =
      some (ds.map .directive, none))
    (hd : Config.defaults (⟨"client", []⟩ :: (ds ++ clientDirectives)) = .ok d)
    (hq : Config.parts d (⟨"client", []⟩ :: (ds ++ clientDirectives)) = .ok q) :
    ∃ p, b.profile .openvpn = .ok p ∧ p.directives = q.others := by
  have hpass := pass_text_of_empty hgeneral hsecrets hremotes
  refine ⟨_, profile_eq_ok_iff.2 ⟨_, none, hpass, rfl,
    Config.profile_openvpn_eq_ok_iff.2 ⟨d, q, ?_, ?_, rfl⟩⟩, rfl⟩
  · rw [Config.foldl_add, Statement.filterMap_directives]
    exact hd
  · rw [Config.foldl_add, Statement.filterMap_directives]
    exact hq

/-- A blueprint holds what it was made of. A matrix counts from its first version on, and has to be
readable then. -/
theorem make_eq_ok_iff {general : Json.Members} {secrets : Secrets} {entry : GatewayEntry}
    {version : Int} {preferences : Preferences} :
    make general secrets entry version preferences = .ok b ↔
      ∃ matrix, (if matrixVersion ≤ version then entry.matrix = .ok matrix else matrix = []) ∧
        b = ⟨general, secrets, entry, version, preferences, matrix⟩ := by
  rw [make]
  split
  · simp only [bind_eq_ok_iff, mapError_eq_ok_iff, Except.ok.injEq, eq_comm (b := b)]
  · simp [eq_comm]

theorem of_make {general : Json.Members} {secrets : Secrets} {entry : GatewayEntry} {version : Int}
    {preferences : Preferences} (h : make general secrets entry version preferences = .ok b) :
    b.general = general ∧ b.secrets = secrets ∧ b.entry = entry ∧ b.version = version ∧
      b.preferences = preferences := by
  obtain ⟨matrix, -, rfl⟩ := make_eq_ok_iff.1 h
  exact ⟨rfl, rfl, rfl, rfl, rfl⟩

end Blueprint

end VpnDirectory
