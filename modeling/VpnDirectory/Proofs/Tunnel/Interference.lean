import VpnDirectory.Proofs.Collection.Dictionary
import VpnDirectory.Proofs.Tunnel.Rendering

/-!
# What a gateway can change in a profile

The lines of a gateway are meant to be remotes and routes, which become connections and routes of
the profile and none of its directives.

* `Line.IsInert` are the lines that do no more than that. They also close no block, so that lines
  of this kind leave all other directives as they are, whatever block they stand in:
  `Statement.others_eq_of_isInert`.
* `Blueprint.fromGateway` is what is read from the lines of the gateway on;
  `Blueprint.fromGateway_of_closed` : outside of blocks the lines of the gateway are read by
  themselves.
* `Blueprint.isInert_remotes` : the lines of a gateway are inert unless an address or a protocol
  breaks a line. Nothing in the text keeps them from it: `Blueprint.profile_openvpn_agree_iff` says
  when two gateways lead to the same directives and blocks all the same.
-/

namespace VpnDirectory

/-! ### Lines that name end points -/

namespace Line

/-- The line says nothing or is a remote or a route. -/
def IsInert (l : List Char) : Prop :=
  ofChars l = silent ∨ ∃ d : Directive, ofChars l = directive d ∧ d.isEndpoint

@[simp] theorem isInert_chomp {l : List Char} : IsInert (Text.chomp l) ↔ IsInert l := by
  rw [IsInert, IsInert, ofChars_chomp]

/-- A line that closes a block is a closing tag. -/
theorem ofChars_of_closes {tag l : List Char} (h : closes tag l) : ofChars l = closing tag := by
  have htrim : Text.trim l = '<' :: '/' :: (tag ++ ['>']) := by simpa [closes] using h
  have htag : tagAfter? ['<', '/'] ('<' :: '/' :: (tag ++ ['>'])) = some tag := by
    simp [tagAfter?]
  rw [ofChars, htrim]
  simp [htag]

theorem IsInert.closes_eq_false {l : List Char} (h : IsInert l) (tag : List Char) :
    closes tag l = false := by
  rw [Bool.eq_false_iff]
  intro hclose
  rw [IsInert, ofChars_of_closes hclose] at h
  rcases h with h | ⟨d, h, -⟩
  · cases h
  · cases h

end Line

namespace Statement

variable {ls ms₁ ms₂ rest : List (List Char)} {s s₁ s₂ : List Statement} {i : Option OpenBlock}

/-- The directives that are neither remotes nor routes. -/
def others (statements : List Statement) : List Directive :=
  (statements.filterMap directive?).filter fun x => !x.isEndpoint

theorem others_append (s t : List Statement) : others (s ++ t) = others s ++ others t := by
  rw [others, List.filterMap_append, List.filter_append]
  rfl

theorem others_directives {ds : List Directive} (h : ∀ d ∈ ds, d.isEndpoint) :
    others (ds.map directive) = [] := by
  have hmap : (ds.map directive).filterMap directive? = ds := by
    simp [List.filterMap_map, Function.comp_def, directive?]
  rw [others, hmap, List.filter_eq_nil_iff]
  intro d hd
  simp [h d hd]

/-- Outside of blocks, inert lines are read as remotes and routes. -/
theorem pass_none_of_isInert (h : ∀ l ∈ ls, Line.IsInert l) :
    ∃ ds : List Directive, pass none ls = some (ds.map directive, none) ∧
      ∀ d ∈ ds, d.isEndpoint := by
  induction ls with
  | nil => exact ⟨[], rfl, by simp⟩
  | cons l ls ih =>
    obtain ⟨ds, hds, hendpoint⟩ := ih fun m hm => h m (List.mem_cons_of_mem l hm)
    rcases h l List.mem_cons_self with hl | ⟨d, hl, hd⟩
    · refine ⟨ds, ?_, hendpoint⟩
      rw [pass, hl]
      exact hds
    · refine ⟨d :: ds, ?_, List.forall_mem_cons.2 ⟨hd, hendpoint⟩⟩
      rw [pass, hl]
      simp [hds]

/-- In a block, the lines before its end do not matter to the directives after it. -/
theorem map_others_pass_inside (tag : List Char) (body₁ body₂ ls : List (List Char)) :
    (pass (some ⟨tag, body₁⟩) ls).map (fun r => others r.1) =
      (pass (some ⟨tag, body₂⟩) ls).map fun r => others r.1 := by
  induction ls generalizing body₁ body₂ with
  | nil => rfl
  | cons l ls ih =>
    rw [pass, pass]
    split
    · cases pass none ls with
      | none => rfl
      | some r => rfl
    · exact ih (l :: body₁) (l :: body₂)

/-- Inert lines can be changed without a change to the other directives of a text. -/
theorem others_eq_of_isInert (h₁ : ∀ l ∈ ms₁, Line.IsInert l) (h₂ : ∀ l ∈ ms₂, Line.IsInert l)
    (hs₁ : pass i (ms₁ ++ rest) = some (s₁, none)) (hs₂ : pass i (ms₂ ++ rest) = some (s₂, none)) :
    others s₁ = others s₂ := by
  obtain ⟨r₁, j₁, t₁, hr₁, ht₁, rfl⟩ := pass_append_eq_some_iff.1 hs₁
  obtain ⟨r₂, j₂, t₂, hr₂, ht₂, rfl⟩ := pass_append_eq_some_iff.1 hs₂
  cases i with
  | none =>
    -- both lists of lines are read completely before the rest
    obtain ⟨ds₁, hds₁, hendpoint₁⟩ := pass_none_of_isInert h₁
    obtain ⟨ds₂, hds₂, hendpoint₂⟩ := pass_none_of_isInert h₂
    obtain ⟨rfl, rfl⟩ : ds₁.map directive = r₁ ∧ none = j₁ := by simpa [hds₁] using hr₁
    obtain ⟨rfl, rfl⟩ : ds₂.map directive = r₂ ∧ none = j₂ := by simpa [hds₂] using hr₂
    obtain rfl : t₁ = t₂ := by simpa [ht₁] using ht₂
    rw [others_append, others_append, others_directives hendpoint₁, others_directives hendpoint₂]
  | some b =>
    obtain ⟨tag, body⟩ := b
    -- both lists of lines become part of a body that the rest closes
    have hinside (ms : List (List Char)) (h : ∀ l ∈ ms, Line.IsInert l) :=
      pass_inside (fun l hl => (h l hl).closes_eq_false tag) body
    obtain ⟨rfl, rfl⟩ : [] = r₁ ∧ some ⟨tag, ms₁.reverse ++ body⟩ = j₁ := by
      simpa [hinside ms₁ h₁] using hr₁
    obtain ⟨rfl, rfl⟩ : [] = r₂ ∧ some ⟨tag, ms₂.reverse ++ body⟩ = j₂ := by
      simpa [hinside ms₂ h₂] using hr₂
    have hrest := map_others_pass_inside tag (ms₁.reverse ++ body) (ms₂.reverse ++ body) rest
    rw [ht₁, ht₂] at hrest
    simpa using hrest

/-- Outside of blocks, inert lines can be changed without a change to the blocks of a text. -/
theorem blocks_eq_of_isInert (h₁ : ∀ l ∈ ms₁, Line.IsInert l) (h₂ : ∀ l ∈ ms₂, Line.IsInert l)
    (hs₁ : pass none (ms₁ ++ rest) = some (s₁, none))
    (hs₂ : pass none (ms₂ ++ rest) = some (s₂, none)) :
    s₁.filterMap block? = s₂.filterMap block? := by
  obtain ⟨ds₁, hds₁, -⟩ := pass_none_of_isInert h₁
  obtain ⟨ds₂, hds₂, -⟩ := pass_none_of_isInert h₂
  have hnil (ds : List Directive) : (ds.map directive).filterMap block? = [] := by
    simp [block?]
  rw [pass_append_of hds₁, Option.map_eq_some_iff] at hs₁
  rw [pass_append_of hds₂, Option.map_eq_some_iff] at hs₂
  obtain ⟨⟨t₁, j₁⟩, ht₁, heq₁⟩ := hs₁
  obtain ⟨⟨t₂, j₂⟩, ht₂, heq₂⟩ := hs₂
  cases heq₁
  cases heq₂
  obtain rfl : t₁ = t₂ := by simpa [ht₁] using ht₂
  simp only [List.filterMap_append, hnil]

/-- The body of the last block of a tag. -/
def body? (statements : List Statement) (tag : String) : Option String :=
  (statements.filterMap block?).reverse.lookup tag

end Statement

/-! ### Two gateways of a provider -/

namespace Blueprint

variable {b b₁ b₂ : Blueprint} {p p₁ p₂ : Profile} {t : Transport}

/-- What the general directives say and the block that they leave open. -/
def generalPass (b : Blueprint) : List Statement × Option OpenBlock :=
  (Statement.pass none (partLines b.generalLines)).getD ([], none)

/-- The lines of the gateway and all lines after them. -/
def laterLines (b : Blueprint) (t : Transport) : List (List Char) :=
  partLines (b.remotes t) ++ (partLines clientLines ++ partLines b.secretLines)

/-- What the lines of the gateway and all lines after them say. -/
def fromGateway (b : Blueprint) (t : Transport) : List Statement :=
  ((Statement.pass b.generalPass.2 (b.laterLines t)).getD ([], none)).1

/-- A text that is read without a fault says what its general directives say and then what the
lines of the gateway and all lines after them say. -/
theorem pass_of_profile (h : b.profile t = .ok p) :
    Statement.pass b.generalPass.2 (b.laterLines t) = some (b.fromGateway t, none) ∧
      Statement.pass none (Text.lines (b.text t).toList) =
        some (b.generalPass.1 ++ b.fromGateway t, none) := by
  obtain ⟨statements, options, hpass, -, -⟩ := profile_eq_ok_iff.1 h
  have hsplit := hpass
  rw [lines_text] at hsplit
  obtain ⟨s, i, r, hs, hr, rfl⟩ := Statement.pass_append_eq_some_iff.1 hsplit
  have hgeneral : b.generalPass = (s, i) := by rw [generalPass, hs]; rfl
  have hlater : Statement.pass b.generalPass.2 (b.laterLines t) = some (r, none) := by
    rw [hgeneral]
    exact hr
  have hgateway : b.fromGateway t = r := by rw [fromGateway, hlater]; rfl
  rw [hgateway]
  exact ⟨hlater, by rw [hgeneral, hpass]⟩

/-- Directives and blocks of a profile are all that was read, but for remotes and routes and for
blocks that a later block of the same tag replaces. -/
theorem of_profile (h : b.profile t = .ok p) :
    p.directives = Statement.others b.generalPass.1 ++ Statement.others (b.fromGateway t) ∧
      ∀ tag, p.blocks.get? tag = Statement.body? (b.generalPass.1 ++ b.fromGateway t) tag := by
  obtain ⟨statements, options, hpass, -, hp⟩ := profile_eq_ok_iff.1 h
  obtain rfl : statements = b.generalPass.1 ++ b.fromGateway t := by
    simpa [hpass] using (pass_of_profile h).2
  obtain ⟨hdirectives, hblocks⟩ := Config.of_profile hp
  rw [Config.foldl_add] at hdirectives hblocks
  constructor
  · rw [← Statement.others_append, hdirectives, Statement.others, List.nil_append]
  · intro tag
    rw [hblocks, Dictionary.get?_foldl_insert, Statement.body?]
    exact Option.or_none

/-- A gateway without lines leaves an empty line. -/
theorem isInert_partLines_nil : ∀ l ∈ partLines [], Line.IsInert l :=
  List.forall_mem_singleton.2 (.inl rfl)

/-- The lines of a gateway are inert if nothing in them breaks a line. -/
theorem isInert_remotes (h : b.IsLineByLine) :
    ∀ l ∈ partLines (b.remotes .openvpn), Line.IsInert l := by
  by_cases hnil : b.endpoints = []
  · rw [remotes_openvpn, hnil]
    exact isInert_partLines_nil
  · rw [partLines_remotes h hnil, List.forall_mem_map]
    intro e he
    exact .inr ⟨e.directive, by rw [Line.ofChars_chomp, ofChars_line], rfl⟩

theorem generalPass_eq (h : b₁.general = b₂.general) : b₁.generalPass = b₂.generalPass := by
  rw [generalPass, generalPass, generalLines, generalLines, h]

theorem laterLines_eq (h : b₁.secrets = b₂.secrets) (t : Transport) : b₁.laterLines t =
    partLines (b₁.remotes t) ++ (partLines clientLines ++ partLines b₂.secretLines) := by
  rw [laterLines, secretLines, secretLines, h]

/-- Two gateways of a provider with inert lines have the same directives in their profiles. -/
theorem directives_eq_of_isInert (hgeneral : b₁.general = b₂.general)
    (hsecrets : b₁.secrets = b₂.secrets) (hp₁ : b₁.profile t = .ok p₁) (hp₂ : b₂.profile t = .ok p₂)
    (h₁ : ∀ l ∈ partLines (b₁.remotes t), Line.IsInert l)
    (h₂ : ∀ l ∈ partLines (b₂.remotes t), Line.IsInert l) : p₁.directives = p₂.directives := by
  have hpass₁ := (pass_of_profile hp₁).1
  rw [generalPass_eq hgeneral, laterLines_eq hsecrets] at hpass₁
  rw [(of_profile hp₁).1, (of_profile hp₂).1, generalPass_eq hgeneral,
    Statement.others_eq_of_isInert h₁ h₂ hpass₁ (pass_of_profile hp₂).1]

/-- They have the same blocks as well, unless the general directives leave a block open, which the
lines of the gateway would then be part of. -/
theorem blocks_eq_of_isInert (hgeneral : b₁.general = b₂.general)
    (hsecrets : b₁.secrets = b₂.secrets) (hp₁ : b₁.profile t = .ok p₁) (hp₂ : b₂.profile t = .ok p₂)
    (h₁ : ∀ l ∈ partLines (b₁.remotes t), Line.IsInert l)
    (h₂ : ∀ l ∈ partLines (b₂.remotes t), Line.IsInert l) (hclosed : b₁.generalPass.2 = none) :
    p₁.blocks = p₂.blocks := by
  have hpass₁ := (pass_of_profile hp₁).1
  have hpass₂ := (pass_of_profile hp₂).1
  rw [hclosed, laterLines_eq hsecrets] at hpass₁
  rw [← generalPass_eq hgeneral, hclosed] at hpass₂
  have hblocks := Statement.blocks_eq_of_isInert h₁ h₂ hpass₁ hpass₂
  refine Dictionary.ext_iff_get?.2 fun tag => ?_
  rw [(of_profile hp₁).2, (of_profile hp₂).2, Statement.body?, Statement.body?,
    List.filterMap_append, List.filterMap_append, generalPass_eq hgeneral, hblocks]

/-- If neither the general directives nor the lines of the gateway leave a block open, these lines
are read by themselves. -/
theorem fromGateway_of_closed {r : List Statement} (hp : b.profile t = .ok p)
    (hgeneral : b.generalPass.2 = none)
    (hremotes : Statement.pass none (partLines (b.remotes t)) = some (r, none)) :
    ∃ s, Statement.pass none (partLines clientLines ++ partLines b.secretLines) = some (s, none) ∧
      b.fromGateway t = r ++ s := by
  have hpass := (pass_of_profile hp).1
  rw [hgeneral, laterLines, Statement.pass_append_of hremotes, Option.map_eq_some_iff] at hpass
  obtain ⟨⟨s, i⟩, hs, heq⟩ := hpass
  obtain ⟨hfrom, rfl⟩ := Prod.mk.inj heq
  exact ⟨s, hs, hfrom.symm⟩

/-- Then the profiles of two gateways of a provider have the same directives exactly when their
lines hold the same directives besides remotes and routes. -/
theorem directives_eq_iff_of_closed {r₁ r₂ : List Statement} (hgeneral : b₁.general = b₂.general)
    (hsecrets : b₁.secrets = b₂.secrets) (hp₁ : b₁.profile t = .ok p₁) (hp₂ : b₂.profile t = .ok p₂)
    (hclosed : b₁.generalPass.2 = none)
    (h₁ : Statement.pass none (partLines (b₁.remotes t)) = some (r₁, none))
    (h₂ : Statement.pass none (partLines (b₂.remotes t)) = some (r₂, none)) :
    p₁.directives = p₂.directives ↔ Statement.others r₁ = Statement.others r₂ := by
  have hclosed₂ : b₂.generalPass.2 = none := by rw [← generalPass_eq hgeneral, hclosed]
  obtain ⟨s, hs, hfrom₁⟩ := fromGateway_of_closed hp₁ hclosed h₁
  obtain ⟨s', hs', hfrom₂⟩ := fromGateway_of_closed hp₂ hclosed₂ h₂
  have hsecretLines : b₁.secretLines = b₂.secretLines := by rw [secretLines, secretLines, hsecrets]
  obtain rfl : s = s' := by simpa [hsecretLines, hs'] using hs.symm
  rw [(of_profile hp₁).1, (of_profile hp₂).1, generalPass_eq hgeneral, List.append_cancel_left_eq,
    hfrom₁, hfrom₂, Statement.others_append, Statement.others_append,
    List.append_cancel_right_eq]

/-- When the profiles of two gateways for plain OpenVPN agree in their directives and blocks: what
is read from the lines of the gateway on decides it, and where no block is open around these lines,
what is read from the lines alone. Both agree if no address and no protocol breaks a line, but for
blocks that the general directives leave open. -/
theorem profile_openvpn_agree_iff {general : Json.Members} {secrets : Secrets}
    {entry₁ entry₂ : GatewayEntry} {version : Int} {preferences : Preferences}
    (hmake₁ : make general secrets entry₁ version preferences = .ok b₁)
    (hmake₂ : make general secrets entry₂ version preferences = .ok b₂)
    (hp₁ : b₁.profile .openvpn = .ok p₁) (hp₂ : b₂.profile .openvpn = .ok p₂) :
    (p₁.directives = p₂.directives ↔
        Statement.others (b₁.fromGateway .openvpn) = Statement.others (b₂.fromGateway .openvpn)) ∧
      (p₁.blocks = p₂.blocks ↔ ∀ tag,
        Statement.body? (b₁.generalPass.1 ++ b₁.fromGateway .openvpn) tag =
          Statement.body? (b₂.generalPass.1 ++ b₂.fromGateway .openvpn) tag) ∧
      (∀ r₁ r₂, b₁.generalPass.2 = none →
        Statement.pass none (partLines (b₁.remotes .openvpn)) = some (r₁, none) →
        Statement.pass none (partLines (b₂.remotes .openvpn)) = some (r₂, none) →
        (p₁.directives = p₂.directives ↔ Statement.others r₁ = Statement.others r₂)) ∧
      (b₁.IsLineByLine → b₂.IsLineByLine → p₁.directives = p₂.directives ∧
        (b₁.generalPass.2 = none → p₁.blocks = p₂.blocks)) := by
  obtain ⟨rfl, rfl, rfl, rfl, rfl⟩ := of_make hmake₁
  obtain ⟨hgeneral, hsecrets, -, -, -⟩ := of_make hmake₂
  refine ⟨?_, ?_, fun r₁ r₂ hclosed h₁ h₂ => ?_, fun h₁ h₂ => ⟨?_, fun hclosed => ?_⟩⟩
  · rw [(of_profile hp₁).1, (of_profile hp₂).1, generalPass_eq hgeneral, List.append_cancel_left_eq]
  · rw [Dictionary.ext_iff_get?]
    simp only [(of_profile hp₁).2, (of_profile hp₂).2]
  · exact directives_eq_iff_of_closed hgeneral.symm hsecrets.symm hp₁ hp₂ hclosed h₁ h₂
  · exact directives_eq_of_isInert hgeneral.symm hsecrets.symm hp₁ hp₂ (isInert_remotes h₁)
      (isInert_remotes h₂)
  · exact blocks_eq_of_isInert hgeneral.symm hsecrets.symm hp₁ hp₂ (isInert_remotes h₁)
      (isInert_remotes h₂) hclosed

/-! ### A protocol of more than one line -/

namespace SingleRemote

/-- A gateway that offers plain OpenVPN over one protocol. -/
def entry (protocol : String) : GatewayEntry where
  host := "a.example"
  ipAddress := "192.0.2.7"
  ipAddress6 := ""
  location := ""
  capabilities := some (.object [("transport", .array [.object [("type", .text "openvpn"),
    ("protocols", .array [.text protocol]), ("ports", .array [.text "443"])]])])

def blueprint (protocol : String) : Blueprint where
  general := []
  secrets := {}
  entry := entry protocol
  version := 3
  preferences := {}
  matrix := [⟨some .openvpn, [protocol], ["443"], none⟩]

theorem make_entry (protocol : String) :
    make [] {} (entry protocol) 3 {} = .ok (blueprint protocol) := rfl

theorem exists_profile (protocol : String) (h : protocol ∈ ["udp", "tcp"]) :
    ∃ p, (blueprint protocol).profile .openvpn = .ok p ∧
      p.directives = ⟨"client", []⟩ :: clientDirectives := by
  have hremotes : Statement.pass none (partLines ((blueprint protocol).remotes .openvpn)) =
      some ([⟨"remote", ["192.0.2.7", "443", protocol]⟩].map .directive, none) := by
    rcases List.mem_pair.1 h with rfl | rfl <;> rfl
  rcases List.mem_pair.1 h with rfl | rfl
  all_goals exact exists_profile_of_empty rfl rfl hremotes rfl rfl

/-- What stands behind the line feed becomes a directive of its own. -/
theorem exists_profile_up : ∃ p, (blueprint "udp\nup /tmp/x").profile .openvpn = .ok p ∧
    p.directives = ⟨"client", []⟩ :: ⟨"up", ["/tmp/x"]⟩ :: clientDirectives := by
  have hremotes : Statement.pass none (partLines ((blueprint "udp\nup /tmp/x").remotes .openvpn)) =
      some ([⟨"remote", ["192.0.2.7", "443", "udp"]⟩, ⟨"up", ["/tmp/x"]⟩].map .directive, none) :=
    rfl
  exact exists_profile_of_empty rfl rfl hremotes rfl rfl

end SingleRemote

/-- Two protocols that are words lead to the same directives and the same blocks. -/
theorem profile_openvpn_agree_udp_tcp : ∃ p₁ p₂,
    make [] {} (SingleRemote.entry "udp") 3 {} = .ok (SingleRemote.blueprint "udp") ∧
      make [] {} (SingleRemote.entry "tcp") 3 {} = .ok (SingleRemote.blueprint "tcp") ∧
      (SingleRemote.blueprint "udp").profile .openvpn = .ok p₁ ∧
      (SingleRemote.blueprint "tcp").profile .openvpn = .ok p₂ ∧
      p₁.directives = p₂.directives ∧ p₁.blocks = p₂.blocks := by
  obtain ⟨p₁, hp₁, -⟩ := SingleRemote.exists_profile "udp" (by decide)
  obtain ⟨p₂, hp₂, -⟩ := SingleRemote.exists_profile "tcp" (by decide)
  have hmake₁ := SingleRemote.make_entry "udp"
  have hmake₂ := SingleRemote.make_entry "tcp"
  obtain ⟨hdirectives, hblocks⟩ :=
    (profile_openvpn_agree_iff hmake₁ hmake₂ hp₁ hp₂).2.2.2 (by decide) (by decide)
  have hclosed : (SingleRemote.blueprint "udp").generalPass.2 = none := rfl
  exact ⟨p₁, p₂, hmake₁, hmake₂, hp₁, hp₂, hdirectives, hblocks hclosed⟩

/-- A protocol with a line feed smuggles a directive into the profile. -/
theorem profile_openvpn_smuggled : ∃ p₁ p₂,
    make [] {} (SingleRemote.entry "udp") 3 {} = .ok (SingleRemote.blueprint "udp") ∧
      make [] {} (SingleRemote.entry "udp\nup /tmp/x") 3 {} =
        .ok (SingleRemote.blueprint "udp\nup /tmp/x") ∧
      (SingleRemote.blueprint "udp").profile .openvpn = .ok p₁ ∧
      (SingleRemote.blueprint "udp\nup /tmp/x").profile .openvpn = .ok p₂ ∧
      p₁.directives ≠ p₂.directives := by
  obtain ⟨p₁, hp₁, hdirectives₁⟩ := SingleRemote.exists_profile "udp" (by decide)
  obtain ⟨p₂, hp₂, hdirectives₂⟩ := SingleRemote.exists_profile_up
  refine ⟨p₁, p₂, SingleRemote.make_entry _, SingleRemote.make_entry _, hp₁, hp₂, ?_⟩
  rw [hdirectives₁, hdirectives₂]
  decide

end Blueprint

end VpnDirectory
