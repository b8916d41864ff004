import Mathlib.Data.List.Flatten
import VpnDirectory.Proofs.Tunnel.Interference

/-!
# Reading a profile's text again

A configuration can be fed text after text. A text with a fault leaves behind what it says before
the fault, but not its wording, so that the text of a profile need not be all that the profile comes
from.

* `Config.feedAll_eq` : what texts leave behind that are fed one after another.
* `Statement.pass_joined` : texts without a fault say the same when they are joined, because none of
  them leaves a block open for the next one.
* `Config.profile_of_text_eq_iff` : the text of a profile can always be read again, and it gives the
  same profile exactly when the texts with a fault have left no trace in it.
-/

namespace VpnDirectory

/-- Elements can be left out of what all of them amount to exactly when they amount to nothing. -/
theorem flatMap_filter_eq_iff {α β : Type} {r : α → Bool} {f : α → List β} {xs : List α} :
    (xs.filter r).flatMap f = xs.flatMap f ↔ ∀ x ∈ xs, r x = false → f x = [] := by
  induction xs with
  | nil => simp
  | cons x xs ih =>
    cases hx : r x with
    | true => simp [hx, ih]
    | false =>
      rw [List.filter_cons_of_neg (by simp [hx]), List.flatMap_cons, List.forall_mem_cons, ← ih]
      constructor
      · intro h
        -- what is left of the rest is no longer than the rest
        have hle := ((List.filter_sublist (p := r) (l := xs)).flatMap f).length_le
        have hlength := congrArg List.length h
        rw [List.length_append] at hlength
        have hnil : f x = [] := List.length_eq_zero_iff.1 (by omega)
        exact ⟨fun _ => hnil, by simpa [hnil] using h⟩
      · rintro ⟨hnil, h⟩
        rw [hnil hx, h, List.nil_append]

namespace Statement

variable {cs : List Char} {s u : List Statement} {text before : String} {texts : List String}

/-! ### What texts say -/

/-- Is the text read without a fault? -/
def isRead (text : String) : Bool := (ofText text).2.isNone

/-- What texts say, each of them up to its fault. -/
def said (texts : List String) : List Statement := texts.flatMap fun text => (ofText text).1

/-- The directives that texts say, each of them up to its fault. -/
def directivesSaid (texts : List String) : List Directive := (said texts).filterMap directive?

theorem filter_directivesSaid (q : Directive → Bool) (texts : List String) :
    (directivesSaid texts).filter q =
      texts.flatMap fun text => (directivesSaid [text]).filter q := by
  simp [directivesSaid, said, List.filterMap_flatMap, List.filter_flatMap]

/-- Directives of a kind are the same without the texts with a fault exactly when these say none of
the kind. -/
theorem filter_directivesSaid_eq_iff (q : Directive → Bool) :
    (directivesSaid (texts.filter isRead)).filter q = (directivesSaid texts).filter q ↔
      ∀ text ∈ texts, isRead text = false → ∀ x ∈ directivesSaid [text], q x = false := by
  rw [filter_directivesSaid, filter_directivesSaid, flatMap_filter_eq_iff]
  simp only [List.filter_eq_nil_iff, Bool.not_eq_true]

theorem directivesSaid_sublist (texts : List String) :
    (directivesSaid (texts.filter isRead)).Sublist (directivesSaid texts) :=
  (List.filter_sublist.flatMap _).filterMap _

/-! ### Joined texts -/

theorem isRead_iff : isRead text ↔
    pass none (Text.lines text.toList) = some ((ofText text).1, none) := by
  rw [isRead, Option.isNone_iff_eq_none, ← read_eq_iff (n := 1), ← ofText, Prod.ext_iff]
  simp

theorem pass_chomp {inside : Option OpenBlock} {l : List Char}
    (h : pass inside [l] = some (s, none)) : pass inside [Text.chomp l] = some (s, none) := by
  cases inside with
  | none => simpa [pass] using h
  | some b =>
    have hcloses : Line.closes b.tag (Text.chomp l) = Line.closes b.tag l := by
      rw [Line.closes, Line.closes, Text.trim_chomp]
    cases hl : Line.closes b.tag l with
    | false => simp [pass, hl] at h
    | true => simpa [pass, hl, hcloses] using h

/-- A text that leaves no block open says the same when another line follows it. -/
theorem pass_linesBefore (h : pass none (Text.lines cs) = some (s, none)) :
    pass none (Text.linesBefore cs) = some (s, none) := by
  rcases Text.linesBefore_eq_or cs with hlines | ⟨ls, l, hls, hlines⟩
  · rw [hlines, pass_append_of h]
    simp [pass, show Line.ofChars [] = .silent from rfl]
  · rw [hls] at h
    obtain ⟨s₁, i, s₂, hs₁, hs₂, rfl⟩ := pass_append_eq_some_iff.1 h
    rw [hlines]
    exact pass_append_eq_some_iff.2 ⟨s₁, i, s₂, hs₁, pass_chomp hs₂, rfl⟩

theorem pass_appendText (hbefore : pass none (Text.lines before.toList) = some (s, none))
    (h : pass none (Text.lines text.toList) = some (u, none)) :
    pass none (Text.lines (Config.appendText before text).toList) = some (s ++ u, none) := by
  rw [Config.appendText]
  split
  · next hempty =>
    obtain rfl : [] = s := by simpa [hempty, Text.lines, pass] using hbefore
    exact h
  · have hchars : (before ++ "\n" ++ text).toList = before.toList ++ '\n' :: text.toList := by simp
    rw [hchars, Text.lines_append_newline, pass_append_of (pass_linesBefore hbefore), h]
    rfl

/-- Texts without a fault say one after another what they say each. -/
theorem pass_joined (hbefore : pass none (Text.lines before.toList) = some (s, none))
    (texts : List String) :
    pass none (Text.lines ((texts.filter isRead).foldl Config.appendText before).toList) =
      some (s ++ said (texts.filter isRead), none) := by
  induction texts generalizing before s with
  | nil => simpa [said] using hbefore
  | cons text texts ih =>
    cases htext : isRead text with
    | false => simpa [htext] using ih hbefore
    | true =>
      have hstep := pass_appendText hbefore (isRead_iff.1 htext)
      simpa [htext, said] using ih hstep

end Statement

namespace Config

open Statement

variable {c : Config} {text : String} {texts : List String}

/-! ### Texts one after another -/

/-- What texts leave behind that are fed one after another, whether they have a fault or not. -/
def feedAll (c : Config) (texts : List String) : Config :=
  texts.foldl (fun c text => (c.feed text).1) c

/-- The texts without a fault, as they stand in a configuration. -/
def joined (texts : List String) : String := (texts.filter isRead).foldl appendText ""

/-- What statements leave behind in blocks. -/
def blocksOf (statements : List Statement) : Dictionary String :=
  (statements.filterMap block?).foldl (fun d e => d.insert e.1 e.2) .empty

/-- Of several blocks with the same tag the last one is found. -/
theorem get?_blocksOf (statements : List Statement) (tag : String) :
    (blocksOf statements).get? tag = body? statements tag := by
  rw [blocksOf, Dictionary.get?_foldl_insert, body?]
  exact Option.or_none

/-- The configuration of all that texts say, each of them up to its fault. -/
def ofTexts (texts : List String) (text : String) : Config where
  directives := directivesSaid texts
  blocks := blocksOf (said texts)
  text := text

/-- A text leaves behind what it says up to its fault, and its wording if it has none. -/
theorem feed_fst (c : Config) (text : String) : (c.feed text).1 = {
    (ofText text).1.foldl add c with
      text := if isRead text then appendText c.text text else c.text } := by
  rw [feed, isRead]
  rcases ofText text with ⟨statements, fault⟩
  cases fault <;> simp [foldl_add]

/-- Texts that are fed one after another leave behind all that they say, and the wording of those
without a fault. -/
theorem feedAll_eq (texts : List String) : feedAll {} texts = ofTexts texts (joined texts) := by
  suffices h : ∀ c : Config, feedAll c texts = {
      (said texts).foldl add c with text := (texts.filter isRead).foldl appendText c.text } by
    rw [h, foldl_add]
    simp [ofTexts, directivesSaid, blocksOf, joined]
  induction texts with
  | nil => exact fun c => rfl
  | cons text texts ih =>
    intro c
    rw [feedAll, List.foldl_cons, ← feedAll, ih, feed_fst]
    cases hread : isRead text <;> simp [hread, said, foldl_add]

/-- The wording is read again without a fault, and says what the texts without a fault have said. -/
theorem feed_joined (texts : List String) :
    feed {} (joined texts) = (ofTexts (texts.filter isRead) (joined texts), .ok ()) := by
  refine feed_eq_ok_iff.2 ⟨_, pass_joined rfl texts, ?_⟩
  rw [foldl_add]
  simp [ofTexts, directivesSaid, blocksOf, appendText]

/-! ### The text of a profile -/

variable {c c' : Config} {options : Option ObfuscationOptions} {t : Transport} {p p' : Profile}

/-- Without some of the directives there is still a profile. -/
theorem exists_profile_of_sublist (hp : c.profile options t = .ok p)
    (h : c'.directives.Sublist c.directives) : ∃ p', c'.profile options t = .ok p' := by
  obtain ⟨hconvertible, hoptions⟩ := exists_profile_iff.1 ⟨p, hp⟩
  exact exists_profile_iff.2 ⟨fun x hx => hconvertible x (h.subset hx), hoptions⟩

/-- It is the same profile if no directive is missing that leaves a trace in it. -/
theorem profile_eq_iff_of_sublist (hp : c.profile options t = .ok p)
    (hp' : c'.profile options t = .ok p') (hsublist : c'.directives.Sublist c.directives)
    (htext : c'.text = c.text) : p' = p ↔
      c'.directives.filter (fun x => !x.isEndpoint) = c.directives.filter (fun x => !x.isEndpoint) ∧
        c'.directives.filter Directive.isRoute = c.directives.filter Directive.isRoute ∧
        (t.isPluggable = false →
          c'.directives.filter Directive.isRemote = c.directives.filter Directive.isRemote) ∧
        c'.blocks = c.blocks := by
  obtain ⟨d, q, hd, hq, -, rfl⟩ := profile_eq_ok_iff.1 hp
  obtain ⟨d', q', hd', hq', -, rfl⟩ := profile_eq_ok_iff.1 hp'
  obtain ⟨hremote, hroute⟩ := of_parts hq
  obtain ⟨hremote', hroute'⟩ := of_parts hq'
  simp only [Profile.mk.injEq, true_and, htext, and_true]
  rw [← others_of_parts hq', ← others_of_parts hq]
  constructor
  · rintro ⟨hconnections, hroutes, hothers, hblocks⟩
    -- as many connections and routes come of as many directives
    refine ⟨hothers, (hsublist.filter _).eq_of_length ?_,
      fun ht => (hsublist.filter _).eq_of_length ?_, hblocks⟩
    · rw [← hroutes] at hroute
      simpa using congrArg List.length (hroute'.trans hroute.symm)
    · rw [ht] at hconnections
      rw [← show q'.connections = q.connections from hconnections] at hremote
      simpa using congrArg List.length (hremote'.trans hremote.symm)
  · rintro ⟨hothers, hroutes, hremotes, hblocks⟩
    refine ⟨?_, ?_, hothers, hblocks⟩
    · cases ht : t.isPluggable with
      | true => rfl
      | false =>
        -- the defaults are among the directives that are kept
        rw [others_of_parts hq', others_of_parts hq] at hothers
        obtain rfl : d = d' := by
          rw [← defaults_filter, hothers, defaults_filter, hd] at hd'
          exact Except.ok.inj hd'
        rw [hremotes ht, hremote] at hremote'
        exact (List.map_injective_iff.2 (fun _ _ => Except.ok.inj) hremote').symm
    · rw [hroutes, hroute] at hroute'
      exact (List.map_injective_iff.2 (fun _ _ => Except.ok.inj) hroute').symm

/-- The text of a profile can be read again, and gives a profile for the same transport and with the
same options. It is the same profile exactly when the texts with a fault have left nothing behind
that shows in it: no directive, unless it is a remote of an obfuscated tunnel, and no block that
counts. Hence it is the same if there is no text with a fault. -/
theorem profile_of_text_eq_iff (hp : (feedAll {} texts).profile options t = .ok p) :
    ∃ c p', feed {} p.text = (c, .ok ()) ∧ c.profile options t = .ok p' ∧
      (p' = p ↔
        (∀ text ∈ texts, isRead text = false → ∀ x ∈ directivesSaid [text],
          t.isPluggable ∧ x.isRemote) ∧
        ∀ tag, body? (said (texts.filter isRead)) tag = body? (said texts) tag) ∧
      ((∀ text ∈ texts, isRead text) → p' = p) := by
  have htext : p.text = joined texts := by
    obtain ⟨d, q, -, -, -, rfl⟩ := profile_eq_ok_iff.1 hp
    rw [feedAll_eq]
    rfl
  rw [feedAll_eq] at hp
  have hsublist := directivesSaid_sublist texts
  obtain ⟨p', hp'⟩ : ∃ p', (ofTexts (texts.filter isRead) (joined texts)).profile options t =
      .ok p' := exists_profile_of_sublist hp hsublist
  have hiff := profile_eq_iff_of_sublist hp hp' hsublist rfl
  simp only [ofTexts, filter_directivesSaid_eq_iff, Dictionary.ext_iff_get?, get?_blocksOf] at hiff
  have hall : p' = p ↔ (∀ text ∈ texts, isRead text = false → ∀ x ∈ directivesSaid [text],
      t.isPluggable ∧ x.isRemote) ∧
      ∀ tag, body? (said (texts.filter isRead)) tag = body? (said texts) tag := by
    rw [hiff]
    constructor
    · rintro ⟨hothers, hroutes, hremotes, hblocks⟩
      exact ⟨fun text htext hfault x hx => (x.traceless_iff t).1 ⟨hothers text htext hfault x hx,
        hroutes text htext hfault x hx, fun ht => hremotes ht text htext hfault x hx⟩, hblocks⟩
    · rintro ⟨hremotes, hblocks⟩
      have htraceless (text : String) (htext : text ∈ texts) (hfault : isRead text = false)
          (x : Directive) (hx : x ∈ directivesSaid [text]) :=
        (x.traceless_iff t).2 (hremotes text htext hfault x hx)
      exact ⟨fun text htext hfault x hx => (htraceless text htext hfault x hx).1,
        fun text htext hfault x hx => (htraceless text htext hfault x hx).2.1,
        fun ht text htext hfault x hx => (htraceless text htext hfault x hx).2.2 ht, hblocks⟩
  refine ⟨_, p', htext ▸ feed_joined texts, hp', hall, fun hread => hall.2 ⟨?_, ?_⟩⟩
  · intro text htext hfault
    rw [hread text htext] at hfault
    cases hfault
  · rw [List.filter_eq_self.2 hread]
    exact fun tag => rfl

/-- The remote of the text with a fault does not show in the profile of an obfuscated tunnel. -/
theorem profile_of_text_eq_hiddenRemote :
    let texts := ["route 192.0.2.7", "remote a.example 443\n</key>", "<ca>\nCA\n</ca>"]
    let options : ObfuscationOptions := ⟨"192.0.2.7", 443, "CERT", "0", false, .obfs4⟩
    ∃ p, (feedAll {} texts).profile (some options) .obfs4 = .ok p ∧
      p.text = "route 192.0.2.7\n<ca>\nCA\n</ca>" ∧
      ∃ c, feed {} p.text = (c, .ok ()) ∧ c.profile (some options) .obfs4 = .ok p := by
  intro texts options
  obtain ⟨p, hp, htext⟩ : ∃ p, (feedAll {} texts).profile (some options) .obfs4 = .ok p ∧
      p.text = "route 192.0.2.7\n<ca>\nCA\n</ca>" := ⟨_, rfl, rfl⟩
  obtain ⟨c, p', hfeed, hp', hiff, -⟩ := profile_of_text_eq_iff hp
  obtain rfl : p' = p := hiff.2 ⟨by decide, fun tag => rfl⟩
  exact ⟨p', hp, htext, c, hfeed, hp'⟩

/-- What stands before a stray closing tag is in the profile, but not in its text. -/
theorem profile_of_text_ne_strayTag : ∃ p c p',
    (feedAll {} ["client\n</key>", "auth SHA1"]).profile none .openvpn = .ok p ∧
      feed {} p.text = (c, .ok ()) ∧ c.profile none .openvpn = .ok p' ∧ p' ≠ p := by
  refine ⟨_, _, _, rfl, rfl, rfl, ?_⟩
  intro heq
  have hdirectives := congrArg (fun p => p.directives.length) heq
  revert hdirectives
  decide

end Config

end VpnDirectory
