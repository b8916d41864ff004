import VpnDirectory.Toml.Printer
import VpnDirectory.Toml.Quoted

/-!
# Strings read back

A string is written in the plainest form that can hold it, and each form has a reader that undoes
it. Between three marks the reader takes the last three marks of a row for the end of the string,
so what has to be known of a written text is where three marks stand in it.

* `closing?_append` : where a string between three marks ends.
* `readBasic_writeBasic`, `readBasicLines_writeBasicLines`, `readLiteral_append`,
  `readLiteralLines_append` : the characters of a form are read back.
* `Form.holds_choose` : the form that is chosen can hold the string.
* `readString_writeString` : a string is read back from its written form.
-/

namespace VpnDirectory.Toml

variable {c d mark : Char} {cs body text rest : List Char}

/-! ### Characters -/

theorem isPlain_of_not_isControl (h : isControl c = false) (hc : c ≠ '\n') : isPlain c := by
  simp only [isControl, isPlain, Bool.or_eq_false_iff, Bool.and_eq_false_iff,
    decide_eq_false_iff_not, Bool.or_eq_true, Bool.and_eq_true, decide_eq_true_eq] at h ⊢
  obtain ⟨hlow, hdelete⟩ := h
  by_cases htab : c = '\t'
  · exact .inl htab
  · simp [htab, hc] at hlow
    exact .inr ⟨hlow, hdelete⟩

theorem ne_return_of_not_isControl (h : isControl c = false) : c ≠ '\r' := by
  rintro rfl
  cases h

/-- The escape of a control character has four digits. -/
theorem unicodeEscape?_hexDigits : ∀ n < 0x80,
    (hexDigits n).length = 4 ∧ unicodeEscape? (hexDigits n) = some (Char.ofNat n) := by decide

/-- An escape is a letter or four digits for its character. -/
theorem escape?_eq_some {e : List Char} (h : escape? c = some e) :
    (∃ d, e = ['\\', d] ∧ shortEscape? d = some c) ∨
      ∃ w x y z, e = ['\\', 'u', w, x, y, z] ∧ unicodeEscape? [w, x, y, z] = some c := by
  revert h
  fun_cases escape? c with
  | case6 c _ _ _ _ _ hcontrol =>
    rintro ⟨⟩
    have hlow : c.toNat < 0x80 := by
      simp only [isControl, Bool.or_eq_true, Bool.and_eq_true, decide_eq_true_eq] at hcontrol
      omega
    obtain ⟨hlength, hdigits⟩ := unicodeEscape?_hexDigits c.toNat hlow
    rw [Char.ofNat_toNat] at hdigits
    match hexDigits c.toNat, hlength, hdigits with
    | [w, x, y, z], _, hdigits => exact .inr ⟨w, x, y, z, rfl, hdigits⟩
  | case7 => nofun
  | _ =>
    rintro ⟨⟩
    exact .inl ⟨_, rfl, rfl⟩

theorem escape?_eq_none (h : escape? c = none) : isControl c = false ∧ c ≠ '\\' := by
  revert h
  fun_cases escape? c with
  | case7 c _ _ _ _ hbackslash hcontrol => exact fun _ => ⟨by simpa using hcontrol, hbackslash⟩
  | _ => nofun

/-- No other character is written like a quotation mark, and a line feed is the only one that is
written like a line end. -/
theorem written_head (hc : c ≠ '"') :
    ∃ x xs, (escape? c).getD [c] = x :: xs ∧ x ≠ '"' ∧ x ≠ '\r' ∧ (x = '\n' → c = '\n') := by
  cases he : escape? c with
  | none =>
    exact ⟨c, [], rfl, hc, ne_return_of_not_isControl (escape?_eq_none he).1, id⟩
  | some e =>
    rcases escape?_eq_some he with ⟨d, rfl, -⟩ | ⟨w, x, y, z, rfl, -⟩
    · exact ⟨'\\', [d], rfl, by decide, by decide, nofun⟩
    · exact ⟨'\\', _, rfl, by decide, by decide, nofun⟩

/-! ### Three marks in a row -/

theorem closing?_eq_none (h : ¬ [mark, mark, mark] <+: cs) : closing? mark cs = none := by
  fun_cases closing? mark cs <;> simp_all [List.cons_prefix_cons]

theorem closing?_cons_of_ne (hc : c ≠ mark) : closing? mark (c :: text) = none :=
  closing?_eq_none fun h => hc (List.cons_prefix_cons.1 h).1.symm

/-- A text that does not start with three marks is closed by three marks if it is made of marks
only, and then they are part of it. -/
theorem closing?_append (hbody : ¬ [mark, mark, mark] <+: body) (hrest : rest.head? ≠ some mark) :
    closing? mark (body ++ mark :: mark :: mark :: rest) =
      if body.all (· == mark) then some (body, rest) else none := by
  split
  · next hmarks =>
    simp only [List.all_eq_true, beq_iff_eq] at hmarks
    match body, rest with
    | [], [] | [], [_] | [], _ :: _ :: _ => simp_all [closing?]
    | [a], [] | [a], _ :: _ => simp_all [closing?]
    | [a, b], _ => simp_all [closing?]
    | a :: b :: c :: body, _ => simp_all
  · next hmarks =>
    simp only [List.all_eq_true, beq_iff_eq] at hmarks
    refine closing?_eq_none ?_
    match body with
    | [] => simp at hmarks
    | [a] => simpa [eq_comm] using hmarks
    | [a, b] =>
      simp only [List.cons_append, List.cons_prefix_cons, not_and]
      rintro rfl rfl
      simp at hmarks
    | a :: b :: c :: body => simpa using hbody

theorem hasRun_go_of_prefix {n count sofar : Nat} (h : List.replicate n mark <+: cs)
    (hcount : count ≤ sofar + n) : hasRun.go mark count sofar cs := by
  induction n generalizing sofar cs with
  | zero =>
    cases cs <;> simp_all [hasRun.go]
  | succ n ih =>
    cases cs with
    | nil => simp at h
    | cons c cs =>
      rw [List.replicate_succ, List.cons_prefix_cons] at h
      rw [hasRun.go, if_pos h.1.symm, ih h.2 (by omega), Bool.or_true]

theorem hasRun_go_of_infix {count : Nat} (sofar : Nat) (h : List.replicate count mark <:+: cs) :
    hasRun.go mark count sofar cs := by
  induction cs generalizing sofar with
  | nil => exact hasRun_go_of_prefix (List.prefix_nil.2 (List.infix_nil.1 h)) (Nat.le_add_left _ _)
  | cons c cs ih =>
    rcases List.infix_cons_iff.1 h with h | h
    · exact hasRun_go_of_prefix h (Nat.le_add_left _ _)
    · rw [hasRun.go, ih _ h, Bool.or_true]

/-- The line end at the start of a string between three marks is dropped. -/
theorem skipNewline_body {hasLines : Bool}
    (h : hasLines = false → ∀ c ∈ (body ++ text).head?, c ≠ '\n' ∧ c ≠ '\r') :
    skipNewline ((if hasLines then '\n' :: body else body) ++ text) = body ++ text := by
  cases hasLines with
  | true => rfl
  | false =>
    cases hstart : body ++ text with
    | nil =>
      rw [if_neg Bool.false_ne_true, hstart]
      rfl
    | cons c after =>
      rw [hstart] at h
      obtain ⟨hline, hreturn⟩ := h rfl c rfl
      rw [if_neg Bool.false_ne_true, hstart, skipNewline, skipNewline?] <;> simp [hline, hreturn]

/-! ### Between quotation marks -/

theorem readBasic_short (hd : shortEscape? d = some c) (h : readBasic text = some (cs, rest)) :
    readBasic ('\\' :: d :: text) = some (c :: cs, rest) := by
  revert hd
  fun_cases shortEscape? d with
  | case8 => nofun
  | _ =>
    rintro ⟨⟩
    simp [readBasic, shortEscape?, h]

theorem readBasic_escape {e : List Char} (he : escape? c = some e)
    (h : readBasic text = some (cs, rest)) : readBasic (e ++ text) = some (c :: cs, rest) := by
  rcases escape?_eq_some he with ⟨d, rfl, hd⟩ | ⟨w, x, y, z, rfl, hdigits⟩
  · exact readBasic_short hd h
  · simp [readBasic, hdigits, h]

/-- A character that stands for itself. -/
theorem readBasic_plain (hc : escape? c = none) (hquote : c ≠ '"') (hline : c ≠ '\n')
    (h : readBasic text = some (cs, rest)) : readBasic (c :: text) = some (c :: cs, rest) := by
  obtain ⟨hcontrol, hbackslash⟩ := escape?_eq_none hc
  have hplain := isPlain_of_not_isControl hcontrol hline
  rw [readBasic] <;> simp [hplain, hbackslash, hquote, h]

theorem readBasic_writeBasic (hcs : '\n' ∉ cs) (rest : List Char) :
    readBasic (writeBasic cs ++ '"' :: rest) = some (cs, rest) := by
  induction cs with
  | nil => rfl
  | cons c cs ih =>
    rw [List.mem_cons, not_or] at hcs
    have htail := ih hcs.2
    rw [writeBasic, List.flatMap_cons, List.append_assoc]
    by_cases hquote : c = '"'
    · rw [if_pos hquote, hquote]
      exact readBasic_short rfl htail
    · rw [if_neg hquote]
      cases he : escape? c with
      | some e => exact readBasic_escape he htail
      | none => exact readBasic_plain he hquote (Ne.symm hcs.1) htail

/-! ### Between three quotation marks -/

theorem readBasicLines_short (hd : shortEscape? d = some c)
    (h : readBasicLines false text = some (cs, rest)) :
    readBasicLines false ('\\' :: d :: text) = some (c :: cs, rest) := by
  have hclosing : closing? '"' ('\\' :: d :: text) = none := closing?_cons_of_ne (by decide)
  revert hd
  fun_cases shortEscape? d with
  | case8 => nofun
  | _ =>
    rintro ⟨⟩
    rw [readBasicLines, hclosing] <;> simp [shortEscape?, h]

theorem readBasicLines_escape {e : List Char} (he : escape? c = some e)
    (h : readBasicLines false text = some (cs, rest)) :
    readBasicLines false (e ++ text) = some (c :: cs, rest) := by
  rcases escape?_eq_some he with ⟨d, rfl, hd⟩ | ⟨w, x, y, z, rfl, hdigits⟩
  · exact readBasicLines_short hd h
  · have hclosing : closing? '"' ('\\' :: 'u' :: w :: x :: y :: z :: text) = none :=
      closing?_cons_of_ne (by decide)
    show readBasicLines false ('\\' :: 'u' :: w :: x :: y :: z :: text) = _
    rw [readBasicLines, hclosing]
    simp [hdigits, h]

/-- A character that stands for itself, where no three marks close the string. -/
theorem readBasicLines_plain (hc : escape? c = none) (hclosing : closing? '"' (c :: text) = none)
    (h : readBasicLines false text = some (cs, rest)) :
    readBasicLines false (c :: text) = some (c :: cs, rest) := by
  obtain ⟨hcontrol, hbackslash⟩ := escape?_eq_none hc
  by_cases hline : c = '\n'
  · subst hline
    rw [readBasicLines, hclosing]
    simp [h]
  · have hplain := isPlain_of_not_isControl hcontrol hline
    have hreturn := ne_return_of_not_isControl hcontrol
    rw [readBasicLines, hclosing] <;> simp [hplain, hbackslash, hline, hreturn, h]

theorem readBasicLines_closing (h : closing? '"' text = some (cs, rest)) :
    readBasicLines false text = some (cs, rest) := by
  cases text with
  | nil => cases h
  | cons c text =>
    rw [readBasicLines.eq_def]
    simp [h]

/-- A quotation mark at the start stands for itself, and there are not two before it. -/
theorem writeBasicLines_eq_cons {marks : Nat} (h : writeBasicLines marks cs = '"' :: body) :
    marks < 2 ∧ ∃ cs', body = writeBasicLines (marks + 1) cs' := by
  revert h
  fun_cases writeBasicLines marks cs with
  | case1 => nofun
  | case2 cs hmarks =>
    rintro ⟨⟩
    exact ⟨hmarks, cs, rfl⟩
  | case3 => nofun
  | case4 c cs hc =>
    obtain ⟨x, xs, hx, hquote, -⟩ := written_head hc
    rw [hx, List.cons_append, List.cons.injEq]
    exact fun h => absurd h.1 hquote

/-- No three quotation marks stand at the start, although an escaped one may stand before two
others. -/
theorem not_prefix_writeBasicLines (marks : Nat) (cs : List Char) :
    ¬ ['"', '"', '"'] <+: writeBasicLines marks cs := by
  rintro ⟨text, htext⟩
  obtain ⟨-, cs', hcs'⟩ := writeBasicLines_eq_cons htext.symm
  obtain ⟨-, cs'', hcs''⟩ := writeBasicLines_eq_cons hcs'.symm
  obtain ⟨hmarks, -⟩ := writeBasicLines_eq_cons hcs''.symm
  omega

theorem writeBasicLines_eq_self (marks : Nat) (cs : List Char)
    (h : (writeBasicLines marks cs).all (· == '"')) : writeBasicLines marks cs = cs := by
  simp only [List.all_eq_true, beq_iff_eq] at h
  revert h
  fun_induction writeBasicLines marks cs with
  | case1 => exact fun _ => rfl
  | case2 marks cs hmarks ih =>
    intro h
    rw [ih (List.forall_mem_cons.1 h).2]
  | case3 => exact fun h => absurd (h '\\' List.mem_cons_self) (by decide)
  | case4 marks c cs hc ih =>
    obtain ⟨x, xs, hx, hquote, -⟩ := written_head hc
    rw [hx]
    exact fun h => absurd (h x List.mem_cons_self) hquote

theorem readBasicLines_writeBasicLines (marks : Nat) (cs : List Char)
    (hrest : rest.head? ≠ some '"') :
    readBasicLines false (writeBasicLines marks cs ++ '"' :: '"' :: '"' :: rest) =
      some (cs, rest) := by
  -- the string is closed where only quotation marks are left of it
  have hclosing (marks : Nat) (cs : List Char) :=
    closing?_append (not_prefix_writeBasicLines marks cs) hrest
  fun_induction writeBasicLines marks cs with
  | case1 marks => exact readBasicLines_closing (hclosing marks [])
  | case2 marks cs hmarks ih =>
    have hwritten : writeBasicLines marks ('"' :: cs) = '"' :: writeBasicLines (marks + 1) cs :=
      if_pos hmarks
    by_cases hall : (writeBasicLines marks ('"' :: cs)).all (· == '"')
    · have hclosed := hclosing marks ('"' :: cs)
      rw [if_pos hall, writeBasicLines_eq_self _ _ hall] at hclosed
      rw [← hwritten, writeBasicLines_eq_self _ _ hall]
      exact readBasicLines_closing hclosed
    · have hopen := hclosing marks ('"' :: cs)
      rw [if_neg hall, hwritten] at hopen
      exact readBasicLines_plain rfl hopen ih
  | case3 marks cs hmarks ih => exact readBasicLines_short rfl ih
  | case4 marks c cs hc ih =>
    rw [List.append_assoc]
    cases he : escape? c with
    | some e => exact readBasicLines_escape he ih
    | none => exact readBasicLines_plain he (closing?_cons_of_ne hc) ih

/-! ### Between apostrophes -/

theorem readLiteral_append (h : ∀ c ∈ cs, isPlain c ∧ c ≠ '\'') (rest : List Char) :
    readLiteral (cs ++ '\'' :: rest) = some (cs, rest) := by
  induction cs with
  | nil => rfl
  | cons c cs ih =>
    rw [List.forall_mem_cons] at h
    rw [List.cons_append, readLiteral]
    · simp [h.1.1, ih h.2]
    · exact h.1.2

theorem readLiteralLines_closing (h : closing? '\'' text = some (cs, rest)) :
    readLiteralLines text = some (cs, rest) := by
  cases text with
  | nil => cases h
  | cons c text =>
    rw [readLiteralLines.eq_def]
    simp [h]

theorem readLiteralLines_append (h : ∀ c ∈ cs, isControl c = false)
    (hrun : ¬ ['\'', '\'', '\''] <:+: cs) (hrest : rest.head? ≠ some '\'') :
    readLiteralLines (cs ++ '\'' :: '\'' :: '\'' :: rest) = some (cs, rest) := by
  have hclosing := closing?_append (mt List.IsPrefix.isInfix hrun) hrest
  induction cs with
  | nil => exact readLiteralLines_closing hclosing
  | cons c cs ih =>
    by_cases hall : (c :: cs).all (· == '\'')
    · rw [if_pos hall] at hclosing
      exact readLiteralLines_closing hclosing
    · rw [if_neg hall, List.cons_append] at hclosing
      rw [List.forall_mem_cons] at h
      have hrun' : ¬ ['\'', '\'', '\''] <:+: cs := fun hcs =>
        hrun (List.infix_cons_iff.2 (.inr hcs))
      have htail := ih h.2 hrun' (closing?_append (mt List.IsPrefix.isInfix hrun') hrest)
      have hkept : isPlain c ∨ c = '\n' := by
        by_cases hline : c = '\n'
        · exact .inr hline
        · exact .inl (isPlain_of_not_isControl h.1 hline)
      have hreturn := ne_return_of_not_isControl h.1
      rw [List.cons_append, readLiteralLines, hclosing] <;> simp [hkept, hreturn, htail]

/-! ### The form of a string -/

/-- What a string has to be like to be written in a form. -/
def Form.Holds : Form → List Char → Prop
  | basic, cs => '\n' ∉ cs
  | literal, cs => cs ≠ [] ∧ ∀ c ∈ cs, isPlain c ∧ c ≠ '\''
  | basicLines, _ => True
  | literalLines, cs => (∀ c ∈ cs, isControl c = false) ∧ ¬ ['\'', '\'', '\''] <:+: cs

/-- The form that is chosen can hold the string. -/
theorem Form.holds_choose (cs : List Char) : (choose cs).Holds cs := by
  have hcontrols (h : cs.any isControl = false) : ∀ c ∈ cs, isControl c = false := by
    simpa using h
  have hfeed (h : cs.contains '\n' = false) : '\n' ∉ cs := by simpa using h
  fun_cases choose cs with
  | case1 control lines backslash h =>
    simp only [Bool.and_eq_true, Bool.not_eq_true'] at h
    exact hfeed h.2
  | case2 control lines backslash hbasic h =>
    simp only [Bool.and_eq_true, Bool.not_eq_true'] at h
    obtain ⟨⟨hcontrol, hapostrophe⟩, hlines⟩ := h
    refine ⟨?_, fun c hc => ⟨isPlain_of_not_isControl (hcontrols hcontrol c hc) ?_, ?_⟩⟩
    · rintro rfl
      exact hbasic rfl
    · rintro rfl
      exact hfeed hlines hc
    · rintro rfl
      exact absurd hapostrophe (by simpa using hc)
  | case3 => trivial
  | case4 control lines backslash _ _ _ h =>
    simp only [Bool.and_eq_true, Bool.not_eq_true'] at h
    refine ⟨hcontrols h.1, fun hrun => ?_⟩
    have hrun' : hasRun '\'' 3 cs := hasRun_go_of_infix 0 hrun
    rw [h.2] at hrun'
    cases hrun'
  | case5 => trivial
  | case6 control lines backslash _ _ _ _ h => exact hfeed (Bool.not_eq_true _ ▸ h)

/-! ### Strings of any form -/

/-- Nothing that is written between quotation marks starts with one. -/
theorem writeBasic_ne_cons (hrest : rest.head? ≠ some '"') (text : List Char) :
    writeBasic cs ++ '"' :: rest ≠ '"' :: '"' :: text := by
  cases cs with
  | nil =>
    rintro ⟨⟩
    exact hrest rfl
  | cons c cs =>
    rw [writeBasic, List.flatMap_cons]
    by_cases hquote : c = '"'
    · rw [if_pos hquote]
      nofun
    · obtain ⟨x, xs, hx, hne, -⟩ := written_head hquote
      rw [if_neg hquote, hx]
      exact fun h => hne (List.cons.inj h).1

theorem readString_basic (s : String) (hlines : '\n' ∉ s.toList) (hrest : rest.head? ≠ some '"') :
    readString ('"' :: (writeBasic s.toList ++ '"' :: rest)) = some (s, rest) := by
  rw [readString, readBasic_writeBasic hlines, Option.map_some, String.ofList_toList]
  exact writeBasic_ne_cons hrest

theorem readString_literal (s : String) (hne : s.toList ≠ [])
    (h : ∀ c ∈ s.toList, isPlain c ∧ c ≠ '\'') (rest : List Char) :
    readString ('\'' :: (s.toList ++ '\'' :: rest)) = some (s, rest) := by
  rw [readString, readLiteral_append h, Option.map_some, String.ofList_toList]
  cases hs : s.toList with
  | nil => exact absurd hs hne
  | cons c cs =>
    rw [hs, List.forall_mem_cons] at h
    exact fun text heq => h.1.2 (List.cons.inj heq).1

/-- A string without line feeds does not start with a line end when it is written. -/
theorem head_writeBasicLines (h : '\n' ∉ cs) :
    ∀ x ∈ (writeBasicLines 0 cs ++ '"' :: text).head?, x ≠ '\n' ∧ x ≠ '\r' := by
  fun_cases writeBasicLines 0 cs with
  | case1 | case2 | case3 => simp
  | case4 c cs hc =>
    obtain ⟨x, xs, hx, -, hreturn, hline⟩ := written_head hc
    rw [hx]
    rintro _ ⟨⟩
    exact ⟨fun heq => h (hline heq ▸ List.mem_cons_self), hreturn⟩

theorem readString_basicLines (s : String) (hrest : rest.head? ≠ some '"') :
    readString (betweenThree '"' (s.toList.contains '\n') (writeBasicLines 0 s.toList) ++ rest) =
      some (s, rest) := by
  have hread := readBasicLines_writeBasicLines 0 s.toList hrest
  have hstart (h : s.toList.contains '\n' = false) : ∀ x ∈
      (writeBasicLines 0 s.toList ++ '"' :: '"' :: '"' :: rest).head?, x ≠ '\n' ∧ x ≠ '\r' :=
    head_writeBasicLines (by simpa using h)
  simp only [betweenThree, List.cons_append, List.nil_append, List.append_assoc]
  rw [readString, skipNewline_body hstart, hread, Option.map_some, String.ofList_toList]

theorem readString_literalLines (s : String) (h : ∀ c ∈ s.toList, isControl c = false)
    (hrun : ¬ ['\'', '\'', '\''] <:+: s.toList) (hrest : rest.head? ≠ some '\'') :
    readString (betweenThree '\'' (s.toList.contains '\n') s.toList ++ rest) = some (s, rest) := by
  have hread := readLiteralLines_append h hrun hrest
  have hstart (hlines : s.toList.contains '\n' = false) : ∀ x ∈
      (s.toList ++ '\'' :: '\'' :: '\'' :: rest).head?, x ≠ '\n' ∧ x ≠ '\r' := by
    cases hs : s.toList with
    | nil => simp
    | cons c cs =>
      rintro _ ⟨⟩
      rw [hs] at h hlines
      constructor
      · rintro rfl
        simp at hlines
      · exact ne_return_of_not_isControl (List.forall_mem_cons.1 h).1
  simp only [betweenThree, List.cons_append, List.nil_append, List.append_assoc]
  rw [readString, skipNewline_body hstart, hread, Option.map_some, String.ofList_toList]

/-- A string is read back from its written form. -/
theorem readString_writeString (s : String) (hquote : rest.head? ≠ some '"')
    (hapostrophe : rest.head? ≠ some '\'') :
    readString (writeString s ++ rest) = some (s, rest) := by
  have hholds := Form.holds_choose s.toList
  rw [writeString]
  cases hform : Form.choose s.toList with
  | basic =>
    rw [hform] at hholds
    simpa using readString_basic s hholds hquote
  | literal =>
    rw [hform] at hholds
    simpa using readString_literal s hholds.1 hholds.2 rest
  | basicLines => exact readString_basicLines s hquote
  | literalLines =>
    rw [hform] at hholds
    exact readString_literalLines s hholds.1 hholds.2 hapostrophe

end VpnDirectory.Toml
