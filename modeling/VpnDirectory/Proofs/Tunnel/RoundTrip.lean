import VpnDirectory.Proofs.Json.Compact
import VpnDirectory.Proofs.Tunnel.Conversion
import VpnDirectory.Proofs.Tunnel.Rendering

/-!
# Reading back what was written

The text for plain OpenVPN is read back into what it was drawn up from, `Blueprint.profile_openvpn`,
whenever

* every general directive has a name that is read as one (`IsDirectiveName`);
* no address has a blank, and every protocol is a word;
* no line of the certificates and the key closes the block that it stands in.

Nothing else is asked of them: values may be empty or of any shape, ports may be spelt oddly or be
no ports, the gateway may have no end point at all, and certificates may end in line feeds.
-/

namespace VpnDirectory

/-- A line that starts with the text, alone or before a blank, is a directive of this name, and
neither a comment nor a tag. -/
def StartsDirective (key : String) : Prop :=
  Text.IsWord key.toList ∧ key.toList.head?.any Line.isMark = false

instance (key : String) : Decidable (StartsDirective key) := inferInstanceAs (Decidable (_ ∧ _))

/-- The key of a general directive is read back as its name, and neither as a comment nor as a tag;
it is none of the names that mean something to the reader. -/
def IsDirectiveName (key : String) : Prop :=
  Text.IsWord key.toList ∧ key.toList.head?.any Line.isMark = false ∧
    key ≠ "remote" ∧ key ≠ "route" ∧ key ≠ "port"

instance (key : String) : Decidable (IsDirectiveName key) := inferInstanceAs (Decidable (_ ∧ _))

theorem IsDirectiveName.startsDirective {key : String} (h : IsDirectiveName key) :
    StartsDirective key := ⟨h.1, h.2.1⟩

namespace Blueprint

variable {b : Blueprint} {m : String × Json} {e : Endpoint}

/-! ### General directives -/

/-- What the value of a general directive is written as: a text as it is, and any other value in its
compact form. -/
def valueChars : Json → List Char
  | .text s => s.toList
  | v => v.compactChars

/-- A general directive as it is read back: the words of its value are its arguments. -/
def generalDirective (m : String × Json) : Directive :=
  ⟨m.1, (Text.words (valueChars m.2)).map .ofList⟩

theorem words_arguments (v : Json) : Text.words (arguments v) = Text.words (valueChars v) := by
  cases v with
  | text s => exact Text.words_intercalate fun w hw => Text.isWord_of_mem_words hw
  | _ => rfl

theorem newline_not_mem_arguments (v : Json) : '\n' ∉ arguments v := by
  cases v with
  | text s =>
    exact Text.not_mem_intercalate (by decide) fun w hw =>
      Text.newline_not_mem (Text.isWord_of_mem_words hw).2
  | null | bool | number | array | object => exact Json.newline_not_mem_compactChars _

theorem toList_generalLine (m : String × Json) : (generalLine m).toList =
    m.1.toList ++ if arguments m.2 = [] then [] else ' ' :: arguments m.2 := by
  rw [generalLine]
  split
  · next h => simp [h]
  · next h => rw [if_neg h]; simp

theorem ofChars_generalLine (hm : StartsDirective m.1) :
    Line.ofChars (generalLine m).toList = .directive (generalDirective m) := by
  rw [toList_generalLine, generalDirective, ← words_arguments]
  split
  · next h =>
    rw [Line.ofChars_word_append hm.1 hm.2 (by simp), h, String.ofList_toList]
  · next h =>
    rw [Line.ofChars_word_space hm.1 hm.2, String.ofList_toList]

theorem newline_not_mem_generalLine (hm : StartsDirective m.1) : '\n' ∉ (generalLine m).toList := by
  have hkey : '\n' ∉ m.1.toList := Text.newline_not_mem hm.1.2
  rw [toList_generalLine]
  split <;> simp [hkey, newline_not_mem_arguments]

/-- The directives of the first part of a text. -/
def generalDirectives (general : Json.Members) : List Directive :=
  general.map generalDirective ++ [⟨"client", []⟩]

theorem name_of_mem_generalDirectives {general : Json.Members} {x : Directive}
    (h : ∀ m ∈ general, IsDirectiveName m.1) (hx : x ∈ generalDirectives general) :
    x.isEndpoint = false ∧ x.name ≠ "port" := by
  rcases List.mem_append.1 hx with hx | hx
  · obtain ⟨m, hm, rfl⟩ := List.mem_map.1 hx
    obtain ⟨-, -, hremote, hroute, hport⟩ := h m hm
    exact ⟨by simp [Directive.isEndpoint, generalDirective, hremote, hroute], hport⟩
  · obtain rfl := List.mem_singleton.1 hx
    decide

theorem filter_generalDirectives {general : Json.Members} {q : Directive → Bool}
    (h : ∀ m ∈ general, q (generalDirective m) = false) (hclient : q ⟨"client", []⟩ = false) :
    (generalDirectives general).filter q = [] := by
  refine List.filter_eq_nil_iff.2 fun x hx => ?_
  rcases List.mem_append.1 hx with hx | hx
  · obtain ⟨m, hm, rfl⟩ := List.mem_map.1 hx
    simp [h m hm]
  · obtain rfl := List.mem_singleton.1 hx
    simp [hclient]

/-- The general directives are read as they were written. -/
theorem pass_generalLines (h : ∀ m ∈ b.general, StartsDirective m.1) :
    Statement.pass none (partLines b.generalLines) =
      some ((generalDirectives b.general).map .directive, none) := by
  have hnewline : ∀ l ∈ b.generalLines, '\n' ∉ l.toList := by
    intro l hl
    rcases List.mem_append.1 hl with hl | hl
    · obtain ⟨m, hm, rfl⟩ := List.mem_map.1 hl
      exact newline_not_mem_generalLine (h m hm)
    · obtain rfl := List.mem_singleton.1 hl
      decide
  have hmembers : Statement.pass none (b.general.map fun m => Text.chomp (generalLine m).toList) =
      some (b.general.map fun m => .directive (generalDirective m), none) :=
    Statement.pass_directives fun m hm => by rw [Line.ofChars_chomp, ofChars_generalLine (h m hm)]
  have hclient : Statement.pass none [Text.chomp "client".toList] =
      some ([.directive ⟨"client", []⟩], none) := rfl
  rw [partLines_of_not_mem (by simp [generalLines]) hnewline, generalLines, List.map_append,
    List.map_map]
  unfold Function.comp
  rw [Statement.pass_append_of hmembers, List.map_singleton, hclient, generalDirectives,
    List.map_append, List.map_map]
  rfl

/-! ### End points -/

/-- An address without blanks and a protocol that is a word are arguments of a remote. -/
theorem directive_eq (he : e ∈ b.endpoints) (haddress : ∀ c ∈ e.address.toList,
    Text.isBlank c = false) (hprotocol : Text.IsWord e.protocol.toList) :
    e.directive = ⟨"remote", [e.address, e.portText, e.protocol]⟩ := by
  obtain ⟨hmem, hport⟩ := of_mem_endpoints he
  have hne : e.address ≠ "" := by simpa using (List.mem_filter.1 hmem).2
  have hword : Text.IsWord e.address.toList := ⟨by simpa using hne, haddress⟩
  rw [Endpoint.directive, Text.words_word_space hword,
    Text.words_word_space (Port.isWord_of_ofText? hport), Text.words_of_isWord hprotocol]
  simp

theorem connection_eq (he : e ∈ b.endpoints) (d : Config.Defaults) :
    Config.connection d [e.address, e.portText, e.protocol] = .ok e.connection := by
  have hport := Port.ofText_eq_ok_iff.2 (of_mem_endpoints he).2
  simp only [Config.connection, List.getElem?_cons_zero, List.getElem?_cons_succ, hport, ok_bind]
  rfl

/-! ### The whole text -/

/-- The directives of a text, in order. -/
def directivesRead (b : Blueprint) : List Directive :=
  generalDirectives b.general ++ (b.endpoints.map Endpoint.directive ++ clientDirectives)

/-- A text for plain OpenVPN is read as directives, then blocks. -/
theorem pass_text_of_startsDirective (hgeneral : ∀ m ∈ b.general, StartsDirective m.1)
    (hremotes : b.IsLineByLine) (hsecrets : SecretsStayInside b.secrets) :
    Statement.pass none (Text.lines (b.text .openvpn).toList) =
      some (b.directivesRead.map .directive ++
        (secretBlocks b.secrets).map fun e => .block e.1 e.2, none) := by
  rw [pass_lines_text (pass_generalLines hgeneral) (pass_remotes hremotes) hsecrets]
  simp [directivesRead, Function.comp_def]

theorem pass_text (hgeneral : ∀ m ∈ b.general, IsDirectiveName m.1)
    (hremotes : b.IsLineByLine) (hsecrets : SecretsStayInside b.secrets) :
    Statement.pass none (Text.lines (b.text .openvpn).toList) =
      some (b.directivesRead.map .directive ++
        (secretBlocks b.secrets).map fun e => .block e.1 e.2, none) :=
  pass_text_of_startsDirective (fun m hm => (hgeneral m hm).startsDirective) hremotes hsecrets

theorem name_of_mem_directivesRead {x : Directive}
    (hgeneral : ∀ m ∈ b.general, IsDirectiveName m.1) (hx : x ∈ b.directivesRead) :
    x.name ≠ "port" := by
  simp only [directivesRead, List.mem_append] at hx
  rcases hx with hx | hx | hx
  · exact (name_of_mem_generalDirectives hgeneral hx).2
  · obtain ⟨e, -, rfl⟩ := List.mem_map.1 hx
    exact show "remote" ≠ "port" by decide
  · have hclient : ∀ y ∈ clientDirectives, y.name ≠ "port" := by decide
    exact hclient x hx

/-- Of the directives of a text the remotes become connections, and all others are kept. -/
theorem parts_directivesRead (hgeneral : ∀ m ∈ b.general, IsDirectiveName m.1)
    (haddress : ∀ e ∈ b.endpoints, ∀ c ∈ e.address.toList, Text.isBlank c = false)
    (hprotocol : ∀ e ∈ b.endpoints, Text.IsWord e.protocol.toList) (d : Config.Defaults) :
    Config.parts d b.directivesRead = .ok {
      connections := b.endpoints.map Endpoint.connection
      others := generalDirectives b.general ++ clientDirectives } := by
  have hfirst : Config.parts d (generalDirectives b.general) =
      .ok { others := generalDirectives b.general } :=
    Config.parts_of_forall_not fun x hx => (name_of_mem_generalDirectives hgeneral hx).1
  have hsecond : Config.parts d (b.endpoints.map Endpoint.directive) =
      .ok { connections := b.endpoints.map Endpoint.connection } := by
    refine Config.parts_remotes fun e he => ⟨rfl, ?_⟩
    rw [directive_eq he (haddress e he) (hprotocol e he)]
    exact connection_eq he d
  have hthird : Config.parts d clientDirectives = .ok { others := clientDirectives } :=
    Config.parts_of_forall_not (by decide)
  rw [directivesRead, Config.parts_append, Config.parts_append, hfirst, hsecond, hthird]
  simp [Config.Parts.append]

/-- The blocks of the certificates and the key. -/
def secretDictionary (secrets : Secrets) : Dictionary String :=
  (secretBlocks secrets).foldl (fun d e => d.insert e.1 e.2) .empty

/-- Writing a text for plain OpenVPN and reading it back loses and invents nothing: there is one
connection for every end point of the gateway and one directive for every general directive, and
the certificates and the key are the only blocks. -/
theorem profile_openvpn_of_make {general : Json.Members} {secrets : Secrets} {entry : GatewayEntry}
    {version : Int} {preferences : Preferences}
    (hmake : make general secrets entry version preferences = .ok b)
    (hgeneral : ∀ m ∈ general, IsDirectiveName m.1)
    (haddress : ∀ c ∈ entry.ipAddress.toList, Text.isBlank c = false)
    (haddress6 : ∀ c ∈ entry.ipAddress6.toList, Text.isBlank c = false)
    (hprotocol : ∀ e ∈ b.endpoints, Text.IsWord e.protocol.toList)
    (hca : Line.StaysInside "ca" secrets.caCert)
    (hkey : Line.StaysInside "key" secrets.privateKey)
    (hcert : Line.StaysInside "cert" secrets.vpnCertificate) :
    b.profile .openvpn = .ok {
      transport := .openvpn
      isPluggable := false
      connections := b.endpoints.map Endpoint.connection
      routes := []
      directives := general.map generalDirective ++ ⟨"client", []⟩ :: clientDirectives
      blocks := secretDictionary secrets
      options := none
      text := b.text .openvpn } := by
  obtain ⟨rfl, rfl, rfl, rfl, rfl⟩ := of_make hmake
  have hblank : ∀ e ∈ b.endpoints, ∀ c ∈ e.address.toList, Text.isBlank c = false := by
    -- every address is one of the two that the entry publishes
    intro e he
    have hmem := (List.mem_filter.1 (of_mem_endpoints he).1).1
    rcases List.mem_pair.1 hmem with heq | heq
    · rwa [heq]
    · rwa [heq]
  have hnewline : b.IsLineByLine :=
    fun e he => ⟨Text.newline_not_mem (hblank e he), Text.newline_not_mem (hprotocol e he).2⟩
  obtain ⟨d, hd⟩ := Config.exists_defaults fun x hx => name_of_mem_directivesRead hgeneral hx
  have hparts := parts_directivesRead hgeneral hblank hprotocol d
  have hpass := pass_text hgeneral hnewline ⟨hca, hkey, hcert⟩
  refine profile_eq_ok_iff.2 ⟨_, none, hpass, rfl, ?_⟩
  rw [Config.foldl_add, Config.profile_openvpn_eq_ok_iff]
  rw [Statement.filterMap_directives, Statement.filterMap_blocks]
  refine ⟨d, _, hd, hparts, ?_⟩
  simp [generalDirectives, secretDictionary]

/-! ### A gateway with two addresses -/

namespace DualStack

/-- Values of several shapes, one of them empty. -/
def general : Json.Members :=
  [("auth", .text "SHA1"), ("keepalive", .text "10   30"), ("mute", .text ""),
    ("tun-ipv6", .bool true), ("pull-filter", .array [.text "a b", .null])]

/-- Certificates with line ends of both kinds and with the tag of another block. -/
def secrets : Secrets where
  caCert := "BEGIN\r\nEND\n"
  privateKey := ""
  vpnCertificate := "</ca>"

/-- Two of the three texts are ports. -/
def capabilities : Json := .object [("transport", .array [.object [("type", .text "openvpn"),
  ("protocols", .array [.text "tcp", .text "udp"]),
  ("ports", .array [.text "+443", .text "https", .text "080"])]])]

def entry : GatewayEntry where
  host := "a.example"
  ipAddress := "192.0.2.7"
  ipAddress6 := "2001:db8::7"
  location := ""
  capabilities := some capabilities

def blueprint : Blueprint where
  general := general
  secrets := secrets
  entry := entry
  version := 3
  preferences := { prefersUdp := true }
  matrix := [⟨some .openvpn, ["tcp", "udp"], ["+443", "https", "080"], none⟩]

end DualStack

/-- UDP comes first, and each port that is one has both addresses. -/
theorem profile_openvpn_dualStack :
    make DualStack.general DualStack.secrets DualStack.entry 3 { prefersUdp := true } =
        .ok DualStack.blueprint ∧
      DualStack.blueprint.profile .openvpn = .ok {
        transport := .openvpn
        isPluggable := false
        connections := [⟨"2001:db8::7", 443, true, none⟩, ⟨"192.0.2.7", 443, true, none⟩,
          ⟨"2001:db8::7", 80, true, none⟩, ⟨"192.0.2.7", 80, true, none⟩,
          ⟨"2001:db8::7", 443, false, none⟩, ⟨"192.0.2.7", 443, false, none⟩,
          ⟨"2001:db8::7", 80, false, none⟩, ⟨"192.0.2.7", 80, false, none⟩]
        routes := []
        directives := [⟨"auth", ["SHA1"]⟩, ⟨"keepalive", ["10", "30"]⟩, ⟨"mute", []⟩,
          ⟨"tun-ipv6", ["true"]⟩, ⟨"pull-filter", ["[\"a", "b\",null]"]⟩, ⟨"client", []⟩,
          ⟨"remote-cert-tls", ["server"]⟩, ⟨"persist-tun", []⟩, ⟨"auth-retry", ["nointeract"]⟩]
        blocks :=
          ((Dictionary.empty.insert "ca" "BEGIN\nEND\n").insert "key" "").insert "cert" "</ca>"
        options := none
        text := DualStack.blueprint.text .openvpn } := by
  have hmake : make DualStack.general DualStack.secrets DualStack.entry 3 { prefersUdp := true } =
      .ok DualStack.blueprint := rfl
  exact ⟨hmake, profile_openvpn_of_make hmake (by decide) (Text.not_blank_of_any rfl)
    (Text.not_blank_of_any rfl) (by decide) (by decide) (by decide) (by decide)⟩

end Blueprint

end VpnDirectory
