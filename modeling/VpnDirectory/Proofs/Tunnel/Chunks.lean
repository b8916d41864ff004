import VpnDirectory.Proofs.Tunnel.Rereading

/-!
# Reading a text in chunks

A text may be cut wherever a line ends outside of blocks: what its two chunks say one after another
is what the whole says. Only the number of a line shows where the text began.

* `ConfigError.shiftedBy` : a fault as it is met in a text with more lines before it.
* `Statement.read_add` : the number of the first line shows in the fault and nowhere else.
* `Statement.ofText_append_newline` : what a text says that a chunk without a fault begins.
* `Config.feed_append_newline` : reading the whole leaves behind what reading the chunks does, and
  the wording as well unless everything before the second chunk is empty.
-/

namespace VpnDirectory

/-- The fault with so many more lines before it. -/
def ConfigError.shiftedBy (k : Nat) : ConfigError → ConfigError
  | unexpectedClosingTag line tag => unexpectedClosingTag (line + k) tag
  | e => e

namespace Statement

variable {a b : String}

/-- Lines that stand further down say the same; only the number of a stray closing tag changes. -/
theorem read_add (inside : Option OpenBlock) (n k : Nat) (ls : List (List Char)) :
    read inside (n + k) ls =
      ((read inside n ls).1, (read inside n ls).2.map (·.shiftedBy k)) := by
  have hnext (n : Nat) : n + k + 1 = n + 1 + k := by omega
  -- the cases are those of the reader, whose block is handed on from line to line
  fun_induction read inside n ls with
  | case1 n => rfl
  | case2 n b => rfl
  | case3 n b line rest hclose statements fault hread ih =>
    rw [read, if_pos hclose, hnext, ih, hread]
  | case4 n b line rest hclose ih => rw [read, if_neg hclose, hnext, ih]
  | case5 n line rest hline ih =>
    rw [read, hline]
    simp only [hnext, ih]
  | case6 n line rest tag hline =>
    rw [read, hline]
    rfl
  | case7 n line rest tag hline ih =>
    rw [read, hline]
    simp only [hnext, ih]
  | case8 n line rest d hline statements fault hread ih =>
    rw [read, hline]
    simp only [hnext, ih, hread]

/-- A chunk that is read without a fault leaves nothing open for the text after it, but the lines
of that text stand further down. -/
theorem ofText_append_newline (ha : isRead a) (b : String) :
    ofText (a ++ "\n" ++ b) = ((ofText a).1 ++ (ofText b).1,
      (ofText b).2.map (·.shiftedBy (a.toList.count '\n' + 1))) := by
  have hchars : (a ++ "\n" ++ b).toList = a.toList ++ '\n' :: b.toList := by simp
  have hpass := pass_linesBefore (isRead_iff.1 ha)
  rw [ofText, hchars, Text.lines_append_newline, read_append hpass, Text.length_linesBefore,
    read_add]
  rfl

end Statement

namespace Config

open Statement

variable {c : Config} {a text : String}

theorem feed_snd (c : Config) (text : String) :
    (c.feed text).2 = (ofText text).2.elim (.ok ()) .error := by
  rw [feed]
  rcases ofText text with ⟨statements, fault⟩
  cases fault <;> rfl

theorem feed_snd_eq_ok_iff : (c.feed text).2 = .ok () ↔ isRead text := by
  rw [feed_snd, isRead]
  cases (ofText text).2 <;> simp

/-- The wording does not tell whether the chunks came one by one, unless the second one is the
first text that is not empty. -/
theorem appendText_append_newline_iff (before a b : String) :
    appendText before (a ++ "\n" ++ b) = appendText (appendText before a) b ↔
      a ≠ "" ∨ before ≠ "" := by
  unfold appendText
  by_cases hbefore : before = ""
  · by_cases ha : a = ""
    · -- a line feed is left over in front of the second chunk
      simp [hbefore, ha]
    · simp [hbefore, ha]
  · simp [hbefore, String.append_assoc]

/-- Reading a text in two chunks agrees with reading it whole, whatever has been read before, if the
first chunk has no fault. Both leave behind the same directives and blocks, also up to a fault of
the second chunk. The whole has this very fault, its line being counted from the start of the whole,
and none if the second chunk has none; then the wording is the same as well, unless everything
before the second chunk is empty. -/
theorem feed_append_newline (ha : (c.feed a).2 = .ok ()) (b : String) :
    let whole := c.feed (a ++ "\n" ++ b)
    let chunks := (c.feed a).1.feed b
    whole.1.directives = chunks.1.directives ∧ whole.1.blocks = chunks.1.blocks ∧
      (whole.2 = .ok () ↔ chunks.2 = .ok ()) ∧
      whole.2 = chunks.2.mapError (·.shiftedBy (a.toList.count '\n' + 1)) ∧
      (chunks.2 = .ok () → (whole.1.text = chunks.1.text ↔ a ≠ "" ∨ c.text ≠ "")) := by
  intro whole chunks
  have hread : isRead a := feed_snd_eq_ok_iff.1 ha
  have hwhole := ofText_append_newline hread b
  have hfault : whole.2 = chunks.2.mapError (·.shiftedBy (a.toList.count '\n' + 1)) := by
    show (c.feed _).2 = ((c.feed a).1.feed b).2.mapError _
    rw [feed_snd, feed_snd, hwhole]
    cases (ofText b).2 <;> rfl
  have hstate : whole.1.directives = chunks.1.directives ∧ whole.1.blocks = chunks.1.blocks := by
    show (c.feed _).1.directives = ((c.feed a).1.feed b).1.directives ∧
      (c.feed _).1.blocks = ((c.feed a).1.feed b).1.blocks
    simp only [feed_fst, hwhole, List.foldl_append, foldl_add, List.append_assoc, and_self]
  refine ⟨hstate.1, hstate.2, ?_, hfault, fun hb => ?_⟩
  · rw [hfault, mapError_eq_ok_iff]
  · have hb' : isRead b := feed_snd_eq_ok_iff.1 hb
    have hw : isRead (a ++ "\n" ++ b) := by
      rw [isRead, hwhole]
      simpa [isRead] using hb'
    show (c.feed _).1.text = ((c.feed a).1.feed b).1.text ↔ _
    rw [feed_fst, feed_fst, feed_fst, if_pos hw, if_pos hb', if_pos hread]
    exact appendText_append_newline_iff c.text a b

/-! ### A cut between two kinds of line ends -/

namespace StrayTag

/-- A configuration with a block that a later one replaces. -/
def before : Config := { blocks := Dictionary.empty.insert "ca" "OLD" }

/-- A text that ends in a block with line ends of both kinds and in a bare carriage return. -/
def first : String := "client\n<ca>\r\nNEW\n</ca>\r"

/-- A text that closes a block which it does not open. -/
def second : String := "persist-tun\n</key>"

end StrayTag

/-- The fault is on the second line of its chunk and on the sixth line of the whole. What stands
before it is left behind in both cases. -/
theorem feed_append_newline_strayTag :
    let whole := StrayTag.before.feed (StrayTag.first ++ "\n" ++ StrayTag.second)
    let chunks := (StrayTag.before.feed StrayTag.first).1.feed StrayTag.second
    (StrayTag.before.feed StrayTag.first).2 = .ok () ∧
      chunks.2 = .error (.unexpectedClosingTag 2 "key") ∧
      whole.2 = .error (.unexpectedClosingTag 6 "key") ∧
      whole.1.directives = [⟨"client", []⟩, ⟨"persist-tun", []⟩] ∧
      whole.1.blocks.get? "ca" = some "NEW" := by
  intro whole chunks
  have hfirst : (StrayTag.before.feed StrayTag.first).2 = .ok () := rfl
  have hsecond : chunks.2 = .error (.unexpectedClosingTag 2 "key") := rfl
  obtain ⟨hdirectives, hblocks, -, hfault, -⟩ := feed_append_newline hfirst StrayTag.second
  refine ⟨hfirst, hsecond, ?_, ?_, ?_⟩
  · exact hfault.trans (congrArg (Except.mapError _) hsecond)
  · rw [hdirectives]
    rfl
  · rw [hblocks]
    rfl

end Config

end VpnDirectory
