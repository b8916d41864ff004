import VpnDirectory.Proofs.Toml.Quoted
import VpnDirectory.Toml.Reader

/-!
# Values read back

Strings, truth values and arrays of strings are read back from their written forms.

* `skipSpace_append` : between words, blanks and line ends are dropped up to the next word.
* `readValue_writeString`, `readValue_writeBool` : values without parts.
* `readValue_writeStrings` : arrays, on one line or with a line for each item.
-/

namespace VpnDirectory.Toml

variable {c : Char} {cs text rest : List Char} {v : Value}

/-! ### Where a word starts -/

/-- No blank, and no start of a comment or a line end. -/
def startsWord (c : Char) : Bool := !isBlank c && c ≠ '#' && c ≠ '\n' && c ≠ '\r'

theorem skipBlanks_append (blanks : List Char) (hblanks : ∀ b ∈ blanks, isBlank b)
    (hc : startsWord c) : skipBlanks (blanks ++ c :: text) = c :: text := by
  have hblank : ¬ isBlank c := by
    simp only [startsWord, Bool.and_eq_true, Bool.not_eq_true'] at hc
    simp [hc.1.1.1]
  rw [skipBlanks, List.dropWhile_append_of_pos hblanks, List.dropWhile_cons_of_neg hblank]

theorem skipBlanks_word (hc : startsWord c) : skipBlanks (c :: text) = c :: text :=
  skipBlanks_append [] (by simp) hc

theorem skipComment_word (hc : startsWord c) : skipComment (c :: text) = c :: text := by
  rw [skipComment]
  rintro _ ⟨⟩
  cases hc

theorem skipNewline?_word (hc : startsWord c) : skipNewline? (c :: text) = none := by
  rw [skipNewline?]
  · rintro _ ⟨⟩
    cases hc
  · rintro _ ⟨⟩
    cases hc

theorem skipSpace_append (blanks : List Char) (hblanks : ∀ b ∈ blanks, isBlank b)
    (hc : startsWord c) : skipSpace (blanks ++ c :: text) = c :: text := by
  have hstop (bs : List Char) (hbs : ∀ b ∈ bs, isBlank b) :
      skipNewline (skipComment (skipBlanks (bs ++ c :: text))) = c :: text := by
    rw [skipBlanks_append bs hbs hc, skipComment_word hc, skipNewline, skipNewline?_word hc,
      Option.getD_none]
  have hword : skipSpace (c :: text) = c :: text := by
    have hself := hstop [] (by simp)
    rw [List.nil_append] at hself
    rw [skipSpace, hself]
    exact if_neg (Nat.lt_irrefl _)
  rw [skipSpace, hstop blanks hblanks, hword]
  cases blanks with
  | nil => exact ite_self _
  | cons b bs =>
    refine if_pos ?_
    simp only [List.cons_append, List.length_cons, List.length_append]
    omega

theorem skipSpace_word (hc : startsWord c) : skipSpace (c :: text) = c :: text :=
  skipSpace_append [] (by simp) hc

theorem skipSpace_newline (cs : List Char) : skipSpace ('\n' :: cs) = skipSpace cs := by
  rw [skipSpace]
  exact if_pos (Nat.lt_succ_self _)

/-! ### Values without parts -/

theorem writeString_eq_cons (s : String) : ∃ c text, writeString s = c :: text ∧
    startsWord c ∧ c ≠ ']' ∧ (c = '"' ∨ c = '\'') := by
  rw [writeString]
  cases Form.choose s.toList with
  | basic | basicLines => exact ⟨_, _, rfl, by decide, by decide, .inl rfl⟩
  | literal | literalLines => exact ⟨_, _, rfl, by decide, by decide, .inr rfl⟩

theorem skipBlanks_writeString (s : String) (rest : List Char) :
    skipBlanks (writeString s ++ rest) = writeString s ++ rest := by
  obtain ⟨c, text, hs, hword, -⟩ := writeString_eq_cons s
  rw [hs]
  exact skipBlanks_word hword

theorem skipSpace_writeString (blanks : List Char) (hblanks : ∀ b ∈ blanks, isBlank b)
    (s : String) (rest : List Char) :
    skipSpace (blanks ++ (writeString s ++ rest)) = writeString s ++ rest := by
  obtain ⟨c, text, hs, hword, -⟩ := writeString_eq_cons s
  rw [hs]
  exact skipSpace_append blanks hblanks hword

/-- A string is read where no mark comes after it. -/
theorem readValue_writeString (levels : Nat) (s : String) (rest : List Char)
    (hquote : rest.head? ≠ some '"') (hapostrophe : rest.head? ≠ some '\'') :
    readValue levels (writeString s ++ rest) = some (.text s, rest) := by
  have hread := readString_writeString s hquote hapostrophe
  obtain ⟨c, text, hs, -, -, hc⟩ := writeString_eq_cons s
  rw [hs, List.cons_append] at hread ⊢
  have hscalar : readScalar (c :: (text ++ rest)) = some (.text s, rest) := by
    rcases hc with rfl | rfl
    · rw [readScalar, hread, Option.map_some]
    · rw [readScalar, hread, Option.map_some]
  rw [← hscalar]
  rcases hc with rfl | rfl
  · cases levels <;> rfl
  · cases levels <;> rfl

theorem readValue_writeBool (levels : Nat) (b : Bool) (rest : List Char) :
    readValue levels (writeBool b ++ rest) = some (.bool b, rest) := by
  cases levels <;> cases b <;> rfl

/-! ### Arrays -/

section

variable {item : Reader Value} {start : List Char}

theorem readItems_close (h : skipSpace cs = ']' :: rest) : readItems item cs = some ([], rest) := by
  rw [readItems, h]
  rfl

theorem readItems_last (hstart : skipSpace cs = start) (hopen : start.head? ≠ some ']')
    (hitem : item start = some (v, ']' :: rest)) : readItems item cs = some ([v], rest) := by
  have hclose : skipSpace (']' :: rest) = ']' :: rest := skipSpace_word rfl
  rw [readItems, hstart]
  split
  · exact absurd rfl hopen
  · rw [hitem]
    simp only [hclose]

theorem readItems_comma (hstart : skipSpace cs = start) (hopen : start.head? ≠ some ']')
    (hitem : item start = some (v, ',' :: rest)) (hshorter : rest.length < cs.length) :
    readItems item cs = (readItems item rest).map fun r => (v :: r.1, r.2) := by
  have hcomma : skipSpace (',' :: rest) = ',' :: rest := skipSpace_word rfl
  rw [readItems, hstart]
  split
  · exact absurd rfl hopen
  · rw [hitem]
    simp only [hcomma, if_pos hshorter]

end

theorem head?_writeString (s : String) (rest : List Char) :
    (writeString s ++ rest).head? ≠ some ']' := by
  obtain ⟨c, text, hs, -, hclose, -⟩ := writeString_eq_cons s
  simpa [hs] using hclose

/-- The line of an item. -/
def itemLine (s : String) : List Char := ' ' :: ' ' :: ' ' :: ' ' :: writeString s ++ [',', '\n']

theorem readItems_itemLines (levels : Nat) (ss : List String) (rest : List Char) :
    readItems (readValue levels) ('\n' :: (ss.flatMap itemLine ++ ']' :: rest)) =
      some (ss.map .text, rest) := by
  induction ss with
  | nil =>
    refine readItems_close ?_
    rw [List.flatMap_nil, List.nil_append, skipSpace_newline]
    exact skipSpace_word rfl
  | cons s ss ih =>
    have hitem := readValue_writeString levels s
      (',' :: '\n' :: (ss.flatMap itemLine ++ ']' :: rest)) (by simp) (by simp)
    have hindent := skipSpace_writeString [' ', ' ', ' ', ' '] (by simp [isBlank]) s
      (',' :: '\n' :: (ss.flatMap itemLine ++ ']' :: rest))
    rw [← skipSpace_newline] at hindent
    have hline : '\n' :: ((s :: ss).flatMap itemLine ++ ']' :: rest) =
        '\n' :: ([' ', ' ', ' ', ' '] ++ (writeString s ++
          ',' :: '\n' :: (ss.flatMap itemLine ++ ']' :: rest))) := by
      simp [itemLine]
    rw [hline, readItems_comma hindent (head?_writeString s _) hitem, ih]
    · rfl
    · simp only [List.length_cons, List.length_append]
      omega

/-- An array is read whether it stands on one line or on several. -/
theorem readValue_writeStrings (ss : List String) (rest : List Char) :
    readValue maxDepth (writeStrings ss ++ rest) = some (.array (ss.map .text), rest) := by
  have hopen (cs : List Char) : readValue maxDepth ('[' :: cs) =
      (readItems (readValue 79) cs).map fun r => (.array r.1, r.2) := rfl
  match ss with
  | [] =>
    have hclose : skipSpace (']' :: rest) = ']' :: rest := skipSpace_word rfl
    show readValue maxDepth ('[' :: ']' :: rest) = _
    rw [hopen, readItems_close hclose]
    rfl
  | [s] =>
    have hitem := readValue_writeString 79 s (']' :: rest) (by simp) (by simp)
    have hstart := skipSpace_writeString [] (by simp) s (']' :: rest)
    have hitems := readItems_last hstart (head?_writeString s _) hitem
    simp only [writeStrings, List.cons_append, List.append_assoc, List.nil_append] at hitems ⊢
    rw [hopen, hitems]
    rfl
  | s :: s' :: ss =>
    have hitems := readItems_itemLines 79 (s :: s' :: ss) rest
    have hlines : writeStrings (s :: s' :: ss) ++ rest =
        '[' :: '\n' :: ((s :: s' :: ss).flatMap itemLine ++ ']' :: rest) := by
      show '[' :: '\n' :: (s :: s' :: ss).flatMap itemLine ++ [']'] ++ rest = _
      simp
    rw [hlines, hopen, hitems]
    rfl

end VpnDirectory.Toml
