import VpnDirectory.Proofs.Net.Address
import VpnDirectory.Proofs.Tunnel.Interference
import VpnDirectory.Proofs.Tunnel.Options

/-!
# The lines of an obfuscated tunnel

For obfs4 a gateway adds a route to itself and one remote, or nothing. Only the address of the route
is checked where the lines are written. That the remote is clean as well follows from checks made
elsewhere: the port of the gateway is read when the obfuscation client is told of it
(`Blueprint.exists_port_of_obfuscation`), and a pinning is checked with the preferences
(`Preferences.of_activePinning`).
-/

namespace VpnDirectory

/-! ### Pinnings -/

namespace Preferences

variable {preferences : Preferences} {q : Pinning}

theorem of_checkPinning (h : checkPinning q = .ok ()) :
    Address.isAddress q.ip ∧ (Port.ofText? q.port).isSome := by
  rw [checkPinning] at h
  split at h
  · cases h
  · split at h
    · cases h
    · next haddress =>
      split at h
      · cases h
      · next hport =>
        rw [Option.isSome_iff_ne_none]
        simpa using And.intro haddress hport

/-- A pinning in force among valid preferences has an address and a port. -/
theorem of_activePinning (hvalid : preferences.validate = .ok ())
    (hq : preferences.activePinning = some q) :
    Address.isAddress q.ip ∧ (Port.ofText? q.port).isSome := by
  have hpinning : preferences.pinning = some q := (Option.filter_eq_some_iff.1 hq).1
  rw [validate, hpinning] at hvalid
  dsimp only at hvalid
  obtain ⟨⟨⟩, hcheck, -⟩ := bind_eq_ok_iff.1 hvalid
  exact of_checkPinning (mapError_eq_ok_iff.1 hcheck)

end Preferences

namespace Blueprint

variable {b : Blueprint} {p : Profile}

/-! ### Bridges -/

/-- Early versions have no matrix. -/
theorem matrix_of_make {general : Json.Members} {secrets : Secrets} {entry : GatewayEntry}
    {version : Int} {preferences : Preferences}
    (h : make general secrets entry version preferences = .ok b)
    (hversion : version < matrixVersion) : b.matrix = [] := by
  obtain ⟨matrix, hmatrix, rfl⟩ := make_eq_ok_iff.1 h
  rwa [if_neg (by omega)] at hmatrix

/-- The obfuscation client is told of an obfs4 entry, and unless a pinning replaces it the first
port of the entry is one. -/
theorem exists_port_of_obfuscation {o : ObfuscationOptions} (h : b.obfuscation = .ok o) :
    ∃ e, b.entryFor? .obfs4 = some e ∧ (b.preferences.activePinning = none →
      ∃ port, e.firstPort = some port ∧ (Port.ofText? port).isSome) := by
  obtain ⟨e, he, ⟨q, hq, -⟩ | ⟨-, hannounces⟩⟩ := obfuscation_eq_ok_iff.1 h
  · refine ⟨e, he, fun hnone => ?_⟩
    rw [hnone] at hq
    cases hq
  · obtain ⟨port, hfirst, hport⟩ := Option.bind_eq_some_iff.1 hannounces.port
    exact ⟨e, he, fun _ => ⟨port, hfirst, Option.isSome_of_eq_some hport⟩⟩

/-- There is no profile for obfs4 unless the obfuscation client is told of the gateway. -/
theorem exists_obfuscation_of_profile (h : b.profile .obfs4 = .ok p) :
    ∃ o, b.obfuscation = .ok o := by
  obtain ⟨o, ho, -⟩ := (profile_eq_ok_iff_of_isPluggable (by decide)).1 h
  exact ⟨o, ho⟩

/-! ### The lines -/

/-- The remote of an obfuscated tunnel: the dispatcher, or a bridge with an address and a port,
which is the pinned one if a pinning is in force. -/
def IsBridgeLine (preferences : Preferences) (line : String) : Prop :=
  if preferences.dialsBridges then
    ∃ host port, Address.isAddress host ∧ (Port.ofText? port).isSome ∧
      line = "remote " ++ host ++ " " ++ port ∧
      ∀ q, preferences.activePinning = some q → host = q.ip ∧ port = q.port
  else line = "remote 127.0.0.1 4430 tcp"

theorem isBridgeLine_bridgeLine (hvalid : b.preferences.validate = .ok ()) {address port : String}
    (haddress : Address.isIPv4 address)
    (hport : b.preferences.activePinning = none → (Port.ofText? port).isSome) :
    IsBridgeLine b.preferences (b.bridgeLine address port) := by
  rw [IsBridgeLine, bridgeLine]
  split
  · cases hq : b.preferences.activePinning with
    | some q =>
      obtain ⟨hip, hport⟩ := Preferences.of_activePinning hvalid hq
      exact ⟨q.ip, q.port, hip, hport, by simp [remoteLine], by simp⟩
    | none =>
      exact ⟨address, port, by simp [Address.isAddress, haddress], hport hq, by simp [remoteLine],
        by simp⟩
  · decide

/-- If there are lines at all, they are a route and a remote. -/
theorem exists_remotes_obfs4 (hversion : ¬ b.version < matrixVersion)
    (hne : b.remotes .obfs4 ≠ []) : ∃ e address port, b.entryFor? .obfs4 = some e ∧
      b.entry.addresses.find? Address.isIPv4 = some address ∧ e.firstPort = some port ∧
      b.remotes .obfs4 = [routeLine address, b.bridgeLine address port] := by
  have hremotes : b.remotes .obfs4 = b.obfs4Remotes := by
    unfold remotes
    rw [if_neg hversion, if_pos (by decide)]
  rw [hremotes]
  rw [hremotes, obfs4Remotes] at hne
  split at hne
  · exact absurd rfl hne
  · next e he =>
    split at hne
    · next address port haddress hport =>
      split at hne
      · next htcp =>
        refine ⟨e, address, port, he, haddress, hport, ?_⟩
        rw [obfs4Remotes, he]
        simp only [haddress, hport, htcp, if_true]
      · exact absurd rfl hne
    · exact absurd rfl hne

/-- The lines of the gateway are none, or a route to one of its addresses and a remote. -/
theorem remotes_obfs4 (hvalid : b.preferences.validate = .ok ()) (hp : b.profile .obfs4 = .ok p)
    (hversion : ¬ b.version < matrixVersion) : b.remotes .obfs4 = [] ∨ ∃ address line,
      Address.isIPv4 address ∧ IsBridgeLine b.preferences line ∧
        b.remotes .obfs4 = [routeLine address, line] := by
  by_cases hnil : b.remotes .obfs4 = []
  · exact .inl hnil
  · obtain ⟨e, address, port, he, haddress, hfirst, hremotes⟩ := exists_remotes_obfs4 hversion hnil
    obtain ⟨o, ho⟩ := exists_obfuscation_of_profile hp
    obtain ⟨e', he', hport⟩ := exists_port_of_obfuscation ho
    obtain rfl : e = e' := Option.some.inj (he.symm.trans he')
    have hv4 : Address.isIPv4 address := List.find?_some haddress
    refine .inr ⟨address, _, hv4, isBridgeLine_bridgeLine hvalid hv4 fun hq => ?_, hremotes⟩
    obtain ⟨port', hfirst', hsome⟩ := hport hq
    obtain rfl : port = port' := Option.some.inj (hfirst.symm.trans hfirst')
    exact hsome

theorem toList_routeLine (address : String) : (routeLine address).toList = "route".toList ++
    ' ' :: (address.toList ++ " 255.255.255.255 net_gateway".toList) := by
  simp [routeLine]

theorem isPrinted_routeLine {address : String} (h : Address.isIPv4 address) :
    Text.IsPrinted (routeLine address).toList := by
  rw [toList_routeLine, ← List.singleton_append]
  simp only [Text.isPrinted_append]
  exact ⟨by decide, by decide, Text.isPrinted_of_visible (Address.visible_of_isIPv4 h), by decide⟩

/-- A remote with a host and whatever follows it. -/
theorem exists_toList_of_isBridgeLine {preferences : Preferences} {line : String}
    (h : IsBridgeLine preferences line) :
    ∃ rest, line.toList = "remote".toList ++ ' ' :: rest ∧ Text.IsPrinted rest := by
  rw [IsBridgeLine] at h
  split at h
  · obtain ⟨host, port, hhost, hport, rfl, -⟩ := h
    obtain ⟨n, hn⟩ := Option.isSome_iff_exists.1 hport
    refine ⟨host.toList ++ [' '] ++ port.toList, by simp, ?_⟩
    simp only [Text.isPrinted_append]
    exact ⟨⟨Text.isPrinted_of_visible (Address.visible_of_isAddress hhost), by decide⟩,
      Text.isPrinted_of_visible (Port.visible_of_ofText? hn)⟩
  · exact ⟨"127.0.0.1 4430 tcp".toList, by rw [h]; rfl, by decide⟩

theorem isPrinted_of_isBridgeLine {preferences : Preferences} {line : String}
    (h : IsBridgeLine preferences line) : Text.IsPrinted line.toList := by
  obtain ⟨rest, heq, hrest⟩ := exists_toList_of_isBridgeLine h
  rw [heq, ← List.singleton_append]
  simp only [Text.isPrinted_append]
  exact ⟨by decide, by decide, hrest⟩

/-- A word that is followed by a space is the name of a directive. -/
theorem isInert_of_name {name rest : List Char} (hname : Text.IsWord name)
    (hmark : name.head?.any Line.isMark = false)
    (hendpoint : String.ofList name = "remote" ∨ String.ofList name = "route") :
    Line.IsInert (name ++ ' ' :: rest) := by
  refine .inr ⟨_, Line.ofChars_word_space hname hmark rest, ?_⟩
  simpa [Directive.isEndpoint] using hendpoint

/-- The text of a route and a remote has two lines. -/
theorem lines_joinLines_pair {first second : String} (hfirst : Text.IsPrinted first.toList)
    (hsecond : Text.IsPrinted second.toList) (hne : second.toList ≠ []) :
    Text.lines (joinLines [first, second]).toList = [first.toList, second.toList] := by
  have hnewline : '\n' ∉ first.toList := Text.not_mem_of_isPrinted (by decide) hfirst
  have hreturn : '\r' ∉ first.toList := Text.not_mem_of_isPrinted (by decide) hfirst
  have hnewline' : '\n' ∉ second.toList := Text.not_mem_of_isPrinted (by decide) hsecond
  rw [toList_joinLines]
  show Text.lines (first.toList ++ '\n' :: second.toList) = _
  rw [Text.lines_append_newline, Text.linesBefore_of_not_mem hnewline,
    Text.chomp_of_not_mem hreturn, Text.lines_of_not_mem hne hnewline']
  rfl

/-- The lines of an obfuscated tunnel are inert. -/
theorem isInert_remotes_obfs4 (hvalid : b.preferences.validate = .ok ())
    (hp : b.profile .obfs4 = .ok p) (hversion : ¬ b.version < matrixVersion) :
    ∀ l ∈ partLines (b.remotes .obfs4), Line.IsInert l := by
  rcases remotes_obfs4 hvalid hp hversion with heq | ⟨address, line, haddress, hline, heq⟩
  · rw [heq]
    exact isInert_partLines_nil
  · obtain ⟨rest, hrest, hprinted⟩ := exists_toList_of_isBridgeLine hline
    have hroute : Line.IsInert (routeLine address).toList := by
      rw [toList_routeLine]
      exact isInert_of_name (by decide) (by decide) (.inr rfl)
    have hremote : Line.IsInert line.toList := by
      rw [hrest]
      exact isInert_of_name (by decide) (by decide) (.inl rfl)
    have hnewline : ∀ l ∈ [routeLine address, line], '\n' ∉ l.toList := by
      simp only [List.forall_mem_cons]
      exact ⟨Text.not_mem_of_isPrinted (by decide) (isPrinted_routeLine haddress),
        Text.not_mem_of_isPrinted (by decide) (isPrinted_of_isBridgeLine hline), by simp⟩
    rw [heq, partLines_of_not_mem (by simp) hnewline]
    simpa using And.intro hroute hremote

/-- An obfuscated tunnel takes nothing from its gateway but a route and a remote, with valid
preferences and a gateway of any contents: the lines of the gateway are none or these two, and the
directives of the profile are the same for all gateways. -/
theorem profile_obfs4_of_validate {general : Json.Members} {secrets : Secrets}
    {entry : GatewayEntry} {version : Int} {preferences : Preferences}
    (hvalid : preferences.validate = .ok ())
    (hmake : make general secrets entry version preferences = .ok b)
    (hp : b.profile .obfs4 = .ok p) :
    (joinLines (b.remotes .obfs4) = "" ∨ ∃ address line, Address.isIPv4 address ∧
        IsBridgeLine preferences line ∧ Text.lines (joinLines (b.remotes .obfs4)).toList =
          [("route " ++ address ++ " 255.255.255.255 net_gateway").toList, line.toList]) ∧
      ∀ {entry' : GatewayEntry} {b' : Blueprint} {p' : Profile},
        make general secrets entry' version preferences = .ok b' → b'.profile .obfs4 = .ok p' →
          p'.directives = p.directives := by
  -- without a matrix the obfuscation client is not told of any gateway
  have hversion : ¬ version < matrixVersion := by
    intro hlt
    obtain ⟨o, ho⟩ := exists_obfuscation_of_profile hp
    obtain ⟨e, he, -⟩ := exists_port_of_obfuscation ho
    rw [entryFor?, matrix_of_make hmake hlt] at he
    cases he
  obtain ⟨rfl, rfl, rfl, rfl, rfl⟩ := of_make hmake
  constructor
  · rcases remotes_obfs4 hvalid hp hversion with heq | ⟨address, line, haddress, hline, heq⟩
    · exact .inl (by rw [heq]; rfl)
    · obtain ⟨rest, hrest, -⟩ := exists_toList_of_isBridgeLine hline
      refine .inr ⟨address, line, haddress, hline, ?_⟩
      rw [heq, lines_joinLines_pair (isPrinted_routeLine haddress)
        (isPrinted_of_isBridgeLine hline) (by simp [hrest])]
      rfl
  · intro entry' b' p' hmake' hp'
    obtain ⟨hgeneral, hsecrets, -, hversion', hpreferences⟩ := of_make hmake'
    have hvalid' : b'.preferences.validate = .ok () := by rw [hpreferences, hvalid]
    have hinert' := isInert_remotes_obfs4 hvalid' hp' (by rwa [hversion'])
    exact directives_eq_of_isInert hgeneral hsecrets hp' hp hinert'
      (isInert_remotes_obfs4 hvalid hp hversion)

/-! ### A pinned bridge -/

namespace PinnedBridge

/-- A pinning whose port has a plus sign. -/
def preferences : Preferences where
  dialsBridges := true
  pinning := some { ip := "2001:db8::1", port := "+443", cert := "CERT" }

def entry (protocol port : String) : GatewayEntry where
  host := "a.example"
  ipAddress := "192.0.2.7"
  ipAddress6 := ""
  location := ""
  capabilities := some (.object [("transport", .array [.object [("type", .text "obfs4"),
    ("protocols", .array [.text protocol]), ("ports", .array [.text port])]])])

def blueprint (protocol port : String) : Blueprint where
  general := []
  secrets := {}
  entry := entry protocol port
  version := 3
  preferences := preferences
  matrix := [⟨some .obfs4, [protocol], [port], none⟩]

theorem make_entry (protocol port : String) :
    make [] {} (entry protocol port) 3 preferences = .ok (blueprint protocol port) := rfl

theorem pass_remotes {protocol : String} (port : String)
    (h : Text.occursIn "tcp".toList protocol.toList) :
    Statement.pass none (partLines ((blueprint protocol port).remotes .obfs4)) =
      some ([⟨"route", ["192.0.2.7", "255.255.255.255", "net_gateway"]⟩,
        ⟨"remote", ["2001:db8::1", "+443"]⟩].map .directive, none) := by
  have he : (blueprint protocol port).entryFor? .obfs4 =
      some ⟨some .obfs4, [protocol], [port], none⟩ := rfl
  have hfind : (["", "192.0.2.7"].filter (· ≠ "")).find? Address.isIPv4 = some "192.0.2.7" := rfl
  have haddress : (blueprint protocol port).entry.addresses.find? Address.isIPv4 =
      some "192.0.2.7" := hfind
  have hversion : ¬ (blueprint protocol port).version < matrixVersion := Int.lt_irrefl 3
  have hremotes : (blueprint protocol port).remotes .obfs4 =
      ["route 192.0.2.7 255.255.255.255 net_gateway", "remote 2001:db8::1 +443"] := by
    rw [remotes, if_neg hversion, if_pos (by decide), obfs4Remotes, he]
    simp only [haddress, TransportEntry.firstPort, List.head?_cons, TransportEntry.hasTcp,
      List.any_cons, h, Bool.true_or, if_true]
    rfl
  rw [hremotes]
  rfl

/-- Whatever the gateway is like otherwise, TCP in its protocol is enough for a profile. -/
theorem exists_profile (protocol port : String)
    (h : Text.occursIn "tcp".toList protocol.toList) :
    ∃ p, (blueprint protocol port).profile .obfs4 = .ok p :=
  ⟨_, profile_eq_ok_iff.2 ⟨_, _, pass_text_of_empty rfl rfl (pass_remotes port h), rfl, rfl⟩⟩

end PinnedBridge

/-- Neither the protocol nor the port of the second gateway gets into the profile. -/
theorem profile_obfs4_pinned : ∃ p p',
    PinnedBridge.preferences.validate = .ok () ∧
      make [] {} (PinnedBridge.entry "tcp" "443") 3 PinnedBridge.preferences =
        .ok (PinnedBridge.blueprint "tcp" "443") ∧
      make [] {} (PinnedBridge.entry "tcp\nup /tmp/x" "80\n<tls-auth>") 3 PinnedBridge.preferences =
        .ok (PinnedBridge.blueprint "tcp\nup /tmp/x" "80\n<tls-auth>") ∧
      (PinnedBridge.blueprint "tcp" "443").profile .obfs4 = .ok p ∧
      (PinnedBridge.blueprint "tcp\nup /tmp/x" "80\n<tls-auth>").profile .obfs4 = .ok p' ∧
      p'.directives = p.directives := by
  have hvalid : PinnedBridge.preferences.validate = .ok () := rfl
  have hmake := PinnedBridge.make_entry "tcp" "443"
  have hmake' := PinnedBridge.make_entry "tcp\nup /tmp/x" "80\n<tls-auth>"
  obtain ⟨p, hp⟩ := PinnedBridge.exists_profile "tcp" "443" (by decide)
  obtain ⟨p', hp'⟩ := PinnedBridge.exists_profile "tcp\nup /tmp/x" "80\n<tls-auth>" (by decide)
  exact ⟨p, p', hvalid, hmake, hmake', hp, hp',
    (profile_obfs4_of_validate hvalid hmake hp).2 hmake' hp'⟩

end Blueprint

end VpnDirectory
