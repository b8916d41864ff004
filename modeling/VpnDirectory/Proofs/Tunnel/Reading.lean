import VpnDirectory.Proofs.Text.Lines
import VpnDirectory.Tunnel.Profile

/-!
# Reading a configuration in parts

Lines are read one by one, and all that one line leaves to the next is the block that it stands in.

* `Line.ofChars_word_append` : a line that starts with a word is a directive, unless the word starts
  like a comment or a tag.
* `Statement.pass` are the statements that lines complete and the block that they leave open;
  `Statement.pass_append` reads lines in two parts.
* `Statement.read_append` and `Statement.read_eq_iff` tie it to `Statement.read`.
* `Config.feed_eq_ok_iff` : a text is read without a fault exactly when its lines complete
  statements and leave no block open.
* `Config.foldl_add` : what statements add to a configuration.
-/

namespace VpnDirectory

/-! ### Single lines -/

namespace Line

open Text

variable {w rest : List Char}

/-- The characters that a comment or a tag starts with. -/
def isMark (c : Char) : Bool := c = '#' || c = ';' || c = '<'

@[simp] theorem ofChars_chomp (line : List Char) : ofChars (chomp line) = ofChars line := by
  rw [ofChars, ofChars, trim_chomp]

theorem tagAfter?_cons_eq_none {c : Char} {front cs : List Char} (h : cs.head? ≠ some c) :
    tagAfter? (c :: front) cs = none := by
  have hnot : ¬ (c :: front).isPrefixOf cs := by
    intro hpre
    obtain ⟨t, rfl⟩ := List.isPrefixOf_iff_prefix.1 hpre
    exact h rfl
  rw [tagAfter?, if_neg hnot]

/-- A line that starts with a word is a directive, unless the word starts with a mark. -/
theorem ofChars_word_append (hw : IsWord w) (hmark : w.head?.any isMark = false)
    (hrest : ∀ c, rest.head? = some c → isBlank c) :
    ofChars (w ++ rest) = directive ⟨.ofList w, (words rest).map .ofList⟩ := by
  obtain ⟨c, v, hv⟩ := List.exists_cons_of_ne_nil hw.1
  -- trimming keeps the first character, which tells the kind of the line
  have hhead : (trim (w ++ rest)).head? = some c := by rw [head?_trim_word_append hw, hv]; rfl
  have hc : isMark c = false := by simpa [hv] using hmark
  simp only [isMark, Bool.or_eq_false_iff, decide_eq_false_iff_not] at hc
  obtain ⟨⟨hhash, hsemicolon⟩, hangle⟩ := hc
  have hloud : ¬ ((trim (w ++ rest)).isEmpty || (trim (w ++ rest)).head? = some '#' ||
      (trim (w ++ rest)).head? = some ';') := by
    have hne : trim (w ++ rest) ≠ [] := by
      intro hnil
      rw [hnil] at hhead
      cases hhead
    simp [hhead, hhash, hsemicolon, hne]
  have htag (front : List Char) : tagAfter? ('<' :: front) (trim (w ++ rest)) = none :=
    tagAfter?_cons_eq_none (by simpa [hhead] using hangle)
  rw [ofChars]
  simp only [if_neg hloud, htag, words_trim, words_isWord_append hw hrest]
  rfl

theorem ofChars_word_space (hw : IsWord w) (hmark : w.head?.any isMark = false) (rest : List Char) :
    ofChars (w ++ ' ' :: rest) = directive ⟨.ofList w, (words rest).map .ofList⟩ := by
  rw [ofChars_word_append hw hmark (by simp), words_cons_blank isBlank_space]

end Line

/-! ### Lines one after another -/

namespace Statement

variable {inside i : Option OpenBlock} {n : Nat} {ls ms : List (List Char)}
  {statements : List Statement} {fault : Option ConfigError}

/-- What lines say that start inside a block or outside: the statements that they complete and the
block that they leave open. There is no answer if they close a block outside of any. -/
def pass : (inside : Option OpenBlock) → List (List Char) →
    Option (List Statement × Option OpenBlock)
  | inside, [] => some ([], inside)
  | some b, line :: rest =>
    if Line.closes b.tag line then (pass none rest).map fun r => (ofBlock b :: r.1, r.2)
    else pass (some { b with body := line :: b.body }) rest
  | none, line :: rest =>
    match Line.ofChars line with
    | .silent => pass none rest
    | .closing _ => none
    | .opening tag => pass (some { tag }) rest
    | .directive d => (pass none rest).map fun r => (directive d :: r.1, r.2)

/-- Lines in two parts: the second one starts inside what the first one leaves open. -/
theorem pass_append (inside : Option OpenBlock) (ls ms : List (List Char)) :
    pass inside (ls ++ ms) =
      (pass inside ls).bind fun r => (pass r.2 ms).map fun s => (r.1 ++ s.1, s.2) := by
  fun_induction pass inside ls with
  | case1 inside => simp
  | case2 b line rest hclose ih =>
    rw [List.cons_append, pass, if_pos hclose, ih]
    cases pass none rest <;> simp [Function.comp_def]
  | case3 b line rest hclose ih => rw [List.cons_append, pass, if_neg hclose, ih]
  | case4 line rest hline ih => rw [List.cons_append, pass, hline]; exact ih
  | case5 line rest tag hline => rw [List.cons_append, pass, hline]; rfl
  | case6 line rest tag hline ih => rw [List.cons_append, pass, hline]; exact ih
  | case7 line rest d hline ih =>
    rw [List.cons_append, pass, hline]
    simp only [ih]
    cases pass none rest <;> simp [Function.comp_def]

theorem pass_append_of (h : pass inside ls = some (statements, i)) :
    pass inside (ls ++ ms) = (pass i ms).map fun r => (statements ++ r.1, r.2) := by
  rw [pass_append, h]
  rfl

theorem pass_append_eq_some_iff : pass inside (ls ++ ms) = some (statements, i) ↔
    ∃ s j t, pass inside ls = some (s, j) ∧ pass j ms = some (t, i) ∧ statements = s ++ t := by
  rw [pass_append, Option.bind_eq_some_iff]
  constructor
  · rintro ⟨⟨s, j⟩, hs, hmap⟩
    obtain ⟨⟨t, i'⟩, ht, heq⟩ := Option.map_eq_some_iff.1 hmap
    cases heq
    exact ⟨s, j, t, hs, ht, rfl⟩
  · rintro ⟨s, j, t, hs, ht, rfl⟩
    exact ⟨(s, j), hs, by rw [ht]; rfl⟩

theorem read_append (h : pass inside ls = some (statements, i)) (n : Nat) :
    read inside n (ls ++ ms) =
      (statements ++ (read i (n + ls.length) ms).1, (read i (n + ls.length) ms).2) := by
  -- every line is counted, also those that complete no statement
  fun_induction pass inside ls generalizing n statements with
  | case1 inside =>
    obtain ⟨rfl, rfl⟩ := by simpa using h
    rfl
  | case2 b line rest hclose ih =>
    obtain ⟨⟨s, j⟩, hs, hr⟩ := Option.map_eq_some_iff.1 h
    cases hr
    rw [List.cons_append, read, if_pos hclose, ih hs (n + 1), List.length_cons]
    simp [Nat.add_comm, Nat.add_left_comm]
  | case3 b line rest hclose ih =>
    rw [List.cons_append, read, if_neg hclose, ih h (n + 1), List.length_cons]
    simp [Nat.add_comm, Nat.add_left_comm]
  | case4 line rest hline ih =>
    rw [List.cons_append, read, hline]
    simp [ih h (n + 1), Nat.add_comm, Nat.add_left_comm]
  | case5 line rest tag hline => simp at h
  | case6 line rest tag hline ih =>
    rw [List.cons_append, read, hline]
    simp [ih h (n + 1), Nat.add_comm, Nat.add_left_comm]
  | case7 line rest d hline ih =>
    obtain ⟨⟨s, j⟩, hs, hr⟩ := Option.map_eq_some_iff.1 h
    cases hr
    rw [List.cons_append, read, hline]
    simp [ih hs (n + 1), Nat.add_comm, Nat.add_left_comm]

theorem read_of_pass (h : pass inside ls = some (statements, i)) (n : Nat) :
    read inside n ls = (statements, i.map fun b => .unterminatedBlock (.ofList b.tag)) := by
  have hread : read inside n (ls ++ []) = _ := read_append h n
  rw [List.append_nil] at hread
  cases i <;> simpa [read] using hread

theorem exists_fault_of_pass_eq_none (h : pass inside ls = none) (n : Nat) :
    ∃ line tag, (read inside n ls).2 = some (.unexpectedClosingTag line tag) := by
  fun_induction pass inside ls generalizing n with
  | case1 inside => simp at h
  | case2 b line rest hclose ih =>
    rw [read, if_pos hclose]
    exact ih (Option.map_eq_none_iff.1 h) (n + 1)
  | case3 b line rest hclose ih =>
    rw [read, if_neg hclose]
    exact ih h (n + 1)
  | case4 line rest hline ih =>
    rw [read, hline]
    exact ih h (n + 1)
  | case5 line rest tag hline =>
    rw [read, hline]
    exact ⟨n, .ofList tag, rfl⟩
  | case6 line rest tag hline ih =>
    rw [read, hline]
    exact ih h (n + 1)
  | case7 line rest d hline ih =>
    rw [read, hline]
    exact ih (Option.map_eq_none_iff.1 h) (n + 1)

/-- Lines are read without a fault exactly when no block stays open and none is closed that was not
opened. -/
theorem read_eq_iff : read inside n ls = (statements, none) ↔
    pass inside ls = some (statements, none) := by
  constructor
  · intro h
    cases hpass : pass inside ls with
    | none =>
      obtain ⟨line, tag, hfault⟩ := exists_fault_of_pass_eq_none hpass n
      rw [h] at hfault
      cases hfault
    | some r =>
      obtain ⟨s, i⟩ := r
      rw [read_of_pass hpass n] at h
      cases i with
      | none => simpa using h
      | some b => simp at h
  · intro h
    exact read_of_pass h n

/-- The directive of a statement that is one. -/
def directive? : Statement → Option Directive
  | directive d => some d
  | block .. => none

/-- Tag and body of a statement that is a block. -/
def block? : Statement → Option (String × String)
  | directive _ => none
  | block tag body => some (tag, body)

theorem filterMap_directives (ds : List Directive) (bs : List (String × String)) :
    (ds.map directive ++ bs.map fun e => block e.1 e.2).filterMap directive? = ds := by
  simp [List.filterMap_append, List.filterMap_map, Function.comp_def, directive?]

theorem filterMap_blocks (ds : List Directive) (bs : List (String × String)) :
    (ds.map directive ++ bs.map fun e => block e.1 e.2).filterMap block? = bs := by
  simp [List.filterMap_append, List.filterMap_map, Function.comp_def, block?]

/-- Lines that are directives. -/
theorem pass_directives {α : Type} {as : List α} {g : α → List Char} {f : α → Directive}
    (h : ∀ a ∈ as, Line.ofChars (g a) = .directive (f a)) :
    pass none (as.map g) = some (as.map fun a => directive (f a), none) := by
  induction as with
  | nil => rfl
  | cons a as ih =>
    rw [List.map_cons, pass, h a List.mem_cons_self]
    simp only [ih fun b hb => h b (List.mem_cons_of_mem a hb)]
    rfl

/-- Lines inside a block that do not close it. -/
theorem pass_inside {tag : List Char} (h : ∀ l ∈ ls, Line.closes tag l = false)
    (body : List (List Char)) :
    pass (some ⟨tag, body⟩) ls = some ([], some ⟨tag, ls.reverse ++ body⟩) := by
  induction ls generalizing body with
  | nil => rfl
  | cons l ls ih =>
    have hl : ¬ Line.closes tag l := by simpa using h l List.mem_cons_self
    rw [pass, if_neg hl, ih fun m hm => h m (List.mem_cons_of_mem l hm)]
    simp

/-- A block from its tag to its end. -/
theorem pass_block {tag first last : List Char} (hfirst : Line.ofChars first = .opening tag)
    (h : ∀ l ∈ ls, Line.closes tag l = false) (hlast : Line.closes tag last) :
    pass none (first :: ls ++ [last]) =
      some ([block (.ofList tag) (.ofList (Text.unlines ls))], none) := by
  rw [List.cons_append, pass, hfirst]
  simp only [pass_append, pass_inside h, pass, hlast, ofBlock, List.append_nil,
    List.reverse_reverse, if_true, Option.bind_some, Option.map_some, List.nil_append]

end Statement

/-! ### Texts -/

namespace Config

variable {c c' : Config} {text : String}

/-- What statements add to a configuration. -/
theorem foldl_add (c : Config) (statements : List Statement) :
    statements.foldl add c = { c with
      directives := c.directives ++ statements.filterMap Statement.directive?
      blocks := (statements.filterMap Statement.block?).foldl (fun d e => d.insert e.1 e.2)
        c.blocks } := by
  induction statements generalizing c with
  | nil => simp
  | cons s rest ih =>
    cases s with
    | directive d => simp [ih, add, List.filterMap_cons, Statement.directive?, Statement.block?]
    | block tag body => simp [ih, add, List.filterMap_cons, Statement.directive?, Statement.block?]

/-- A text is read without a fault exactly when its lines leave no block open and close none that
was not opened. -/
theorem feed_eq_ok_iff : feed c text = (c', .ok ()) ↔
    ∃ statements, Statement.pass none (Text.lines text.toList) = some (statements, none) ∧
      c' = { statements.foldl add c with text := appendText c.text text } := by
  have htext (statements : List Statement) : (statements.foldl add c).text = c.text := by
    rw [foldl_add]
  rw [feed, Statement.ofText]
  rcases h : Statement.read none 1 (Text.lines text.toList) with ⟨statements, fault⟩
  cases fault with
  | some e =>
    simp only [Prod.mk.injEq, reduceCtorEq, and_false, false_iff, not_exists, not_and]
    intro s hs
    rw [Statement.read_of_pass hs 1] at h
    simp at h
  | none =>
    rw [Statement.read_eq_iff] at h
    simp [h, htext, eq_comm]

end Config

end VpnDirectory
