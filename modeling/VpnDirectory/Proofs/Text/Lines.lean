import Mathlib.Data.List.Basic
import VpnDirectory.Proofs.Text.Words
import VpnDirectory.Text.Basic

/-!
# Lines and line ends

* `Text.linesBefore` are the lines of a text that another line follows, so that an empty text is
  one empty line; `Text.lines_append_newline` and `Text.linesBefore_append_newline` cut a text at
  any of its line feeds.
* `Text.linesBefore_of_not_mem` : a text without line feeds is one line, less a carriage return at
  its end (`Text.chomp`), which trimming takes off anyway (`Text.trim_chomp`).
* `Text.length_linesBefore` : every line feed of a text ends a line.
* `Text.linesBefore_unlines` : joined texts have the lines of each of them.
* `Text.unlines_linesBefore` : lines joined again give the text with plain line feeds,
  `Text.plainEnds`.
* `Text.HasLine` : a text, of one line or several, stands in another one between line feeds.
-/

namespace VpnDirectory.Text

/-- The lines of a text that another line follows. -/
def linesBefore (cs : List Char) : List (List Char) := lines (cs ++ ['\n'])

/-- Drops a carriage return at the end. -/
def chomp : List Char → List Char
  | [] => []
  | ['\r'] => []
  | c :: cs => c :: chomp cs

/-- Drops the carriage return before every line feed and at the end. -/
def plainEnds : List Char → List Char
  | [] => []
  | ['\r'] => []
  | '\r' :: '\n' :: cs => '\n' :: plainEnds cs
  | c :: cs => c :: plainEnds cs

variable {c : Char} {cs : List Char}

/-! ### Cutting at a line feed -/

/-- A character that ends no line, alone or with the next one, is part of the first line. -/
theorem lines_cons_of_ne (hc : c ≠ '\n') (hr : c = '\r' → cs.head? ≠ some '\n') :
    lines (c :: cs) = (c :: (lines cs).headD []) :: (lines cs).tail := by
  rw [lines.eq_4]
  · cases lines cs <;> rfl
  · exact fun h => hc h
  · rintro t hcr rfl
    exact hr hcr rfl

/-- What is put behind a text does not change how its first line starts. -/
theorem head?_append_ne (hend : c = '\r' → cs ≠ []) (hpair : c = '\r' → cs.head? ≠ some '\n')
    (t : List Char) (hc : c = '\r') : (cs ++ t).head? ≠ some '\n' := by
  rw [List.head?_append_of_ne_nil _ (hend hc)]
  exact hpair hc

theorem lines_ne_nil (h : cs ≠ []) : lines cs ≠ [] := by
  fun_cases lines cs <;> simp_all

theorem linesBefore_ne_nil (cs : List Char) : linesBefore cs ≠ [] :=
  lines_ne_nil (by simp)

theorem lines_append_newline (a b : List Char) :
    lines (a ++ '\n' :: b) = linesBefore a ++ lines b := by
  unfold linesBefore
  -- only a carriage return at the end of the first text can meet the line feed
  induction a using lines.induct with
  | case1 => rfl
  | case2 cs ih => simp [lines, ih]
  | case3 cs ih => simp [lines, ih]
  | case4 c cs hc hr _ ih | case5 c cs hc hr _ _ _ ih =>
    by_cases hend : c = '\r' ∧ cs = []
    · -- a carriage return right before the line feed
      obtain ⟨rfl, rfl⟩ := hend
      rfl
    · have hstart (t : List Char) : c = '\r' → (cs ++ '\n' :: t).head? ≠ some '\n' := by
        rintro rfl
        cases cs with
        | nil => exact absurd ⟨rfl, rfl⟩ hend
        | cons d cs => simpa using fun h : d = '\n' => hr cs rfl (by rw [h])
      obtain ⟨l, ls, hls⟩ := List.exists_cons_of_ne_nil (linesBefore_ne_nil cs)
      rw [linesBefore] at hls
      rw [List.cons_append, List.cons_append, lines_cons_of_ne hc (hstart b), ih,
        lines_cons_of_ne hc (hstart []), hls]
      rfl

theorem linesBefore_append_newline (a b : List Char) :
    linesBefore (a ++ '\n' :: b) = linesBefore a ++ linesBefore b := by
  rw [linesBefore, List.append_assoc, List.cons_append, lines_append_newline]
  rfl

/-- Joined texts have the lines of each of them. -/
theorem linesBefore_unlines {ts : List (List Char)} (h : ts ≠ []) :
    linesBefore (unlines ts) = ts.flatMap linesBefore := by
  induction ts with
  | nil => exact absurd rfl h
  | cons t ts ih =>
    cases ts with
    | nil => simp [unlines]
    | cons u us =>
      rw [unlines_cons_cons, linesBefore_append_newline, ih (by simp)]
      rfl

theorem lines_unlines_concat (ts : List (List Char)) (t : List Char) :
    lines (unlines (ts ++ [t])) = ts.flatMap linesBefore ++ lines t := by
  induction ts with
  | nil => rfl
  | cons u us ih =>
    obtain ⟨v, vs, hv⟩ := List.exists_cons_of_ne_nil (List.append_ne_nil_of_right_ne_nil us
      (List.cons_ne_nil t []))
    rw [hv] at ih
    rw [List.cons_append, hv, unlines_cons_cons, lines_append_newline, ih, List.flatMap_cons,
      List.append_assoc]

/-! ### Single lines -/

/-- A text without line feeds is one line. -/
theorem linesBefore_of_not_mem (h : '\n' ∉ cs) : linesBefore cs = [chomp cs] := by
  unfold linesBefore
  induction cs using chomp.induct with
  | case1 => rfl
  | case2 => rfl
  | case3 c cs hc ih =>
    obtain ⟨hne, hcs⟩ : '\n' ≠ c ∧ '\n' ∉ cs := by simpa using h
    have hstart : c = '\r' → (cs ++ ['\n']).head? ≠ some '\n' :=
      head?_append_ne hc (fun _ hnl => hcs (List.mem_of_mem_head? hnl)) _
    rw [List.cons_append, lines_cons_of_ne hne.symm hstart, ih hcs, chomp.eq_3 c cs hc]
    rfl

/-- Where another line follows, every line feed ends one more line. -/
theorem length_linesBefore (cs : List Char) : (linesBefore cs).length = cs.count '\n' + 1 := by
  induction hn : cs.count '\n' generalizing cs with
  | zero =>
    rw [linesBefore_of_not_mem (List.count_eq_zero.1 hn)]
    rfl
  | succ n ih =>
    -- cut at the first line feed
    have hmem : '\n' ∈ cs := List.count_pos_iff.1 (by omega)
    obtain ⟨a, b, rfl, ha⟩ := List.eq_append_cons_of_mem hmem
    have hb : b.count '\n' = n := by
      rw [List.count_append, List.count_cons_self, List.count_eq_zero_of_not_mem ha] at hn
      omega
    rw [linesBefore_append_newline, linesBefore_of_not_mem ha, List.length_append, ih b hb,
      List.length_singleton]
    omega

theorem chomp_eq_or (cs : List Char) : chomp cs = cs ∨ cs = chomp cs ++ ['\r'] := by
  fun_induction chomp cs with
  | case1 => exact .inl rfl
  | case2 => exact .inr rfl
  | case3 c cs _ ih =>
    rcases ih with ih | ih
    · exact .inl (by rw [ih])
    · exact .inr (by rw [List.cons_append, ← ih])

/-- Trimming takes a carriage return at the end off. -/
@[simp] theorem trim_chomp (cs : List Char) : trim (chomp cs) = trim cs := by
  rcases chomp_eq_or cs with h | h
  · rw [h]
  · conv_rhs => rw [h, trim_append_blank (by decide)]

theorem chomp_of_not_mem (h : '\r' ∉ cs) : chomp cs = cs := by
  rcases chomp_eq_or cs with heq | heq
  · exact heq
  · exact absurd (heq ▸ by simp) h

theorem lines_of_not_mem (hne : cs ≠ []) (h : '\n' ∉ cs) : lines cs = [cs] := by
  induction cs with
  | nil => exact absurd rfl hne
  | cons c cs ih =>
    obtain ⟨hc, hcs⟩ : '\n' ≠ c ∧ '\n' ∉ cs := by simpa using h
    rw [lines_cons_of_ne hc.symm fun _ hnl => hcs (List.mem_of_mem_head? hnl)]
    cases cs with
    | nil => rfl
    | cons d cs => rw [ih (by simp) hcs]; rfl

/-- Putting a line after a text adds an empty line or takes a carriage return off the last one. -/
theorem linesBefore_eq_or (cs : List Char) : linesBefore cs = lines cs ++ [[]] ∨
    ∃ ls l, lines cs = ls ++ [l] ∧ linesBefore cs = ls ++ [chomp l] := by
  by_cases hmem : '\n' ∈ cs
  · -- cut at the last line feed
    obtain ⟨b, a, hrev, hb⟩ := List.eq_append_cons_of_mem (List.mem_reverse.2 hmem)
    obtain rfl : cs = a.reverse ++ '\n' :: b.reverse := by
      simpa using congrArg List.reverse hrev
    by_cases hnil : b = []
    · subst hnil
      exact .inl (linesBefore_append_newline a.reverse [])
    · have hb' : '\n' ∉ b.reverse := by simpa using hb
      refine .inr ⟨linesBefore a.reverse, b.reverse, ?_, ?_⟩
      · rw [lines_append_newline, lines_of_not_mem (by simpa using hnil) hb']
      · rw [linesBefore_append_newline, linesBefore_of_not_mem hb']
  · by_cases hnil : cs = []
    · subst hnil
      exact .inl rfl
    · exact .inr ⟨[], cs, lines_of_not_mem hnil hmem, linesBefore_of_not_mem hmem⟩

/-- A line of a text that another line follows is empty or trims like a line of the text alone. -/
theorem exists_trim_eq_of_mem_linesBefore {l : List Char} (hl : l ∈ linesBefore cs) :
    l = [] ∨ ∃ m ∈ lines cs, trim m = trim l := by
  rcases linesBefore_eq_or cs with h | ⟨ls, last, hlines, h⟩
  · rw [h, List.mem_append, List.mem_singleton] at hl
    rcases hl with hl | rfl
    · exact .inr ⟨l, hl, rfl⟩
    · exact .inl rfl
  · rw [h, List.mem_append, List.mem_singleton] at hl
    rw [hlines]
    rcases hl with hl | rfl
    · exact .inr ⟨l, List.mem_append_left _ hl, rfl⟩
    · exact .inr ⟨last, by simp, (trim_chomp last).symm⟩

/-! ### Joining the lines again -/

theorem unlines_cons_of_ne_nil (l : List Char) {ls : List (List Char)} (h : ls ≠ []) :
    unlines (l :: ls) = l ++ '\n' :: unlines ls := by
  obtain ⟨m, ms, rfl⟩ := List.exists_cons_of_ne_nil h
  rfl

/-- Lines joined again give the text with plain line feeds. -/
theorem unlines_linesBefore (cs : List Char) : unlines (linesBefore cs) = plainEnds cs := by
  unfold linesBefore
  induction cs using plainEnds.induct with
  | case1 => rfl
  | case2 => rfl
  | case3 cs ih =>
    rw [plainEnds, ← ih]
    exact unlines_cons_of_ne_nil [] (linesBefore_ne_nil cs)
  | case4 c cs hend hpair ih =>
    rw [plainEnds.eq_4 c cs hend hpair, ← ih]
    by_cases hc : c = '\n'
    · subst hc
      exact unlines_cons_of_ne_nil [] (linesBefore_ne_nil cs)
    · have hstart : c = '\r' → (cs ++ ['\n']).head? ≠ some '\n' :=
        head?_append_ne hend (fun h hcs => hpair _ h (List.eq_cons_of_mem_head? hcs)) _
      obtain ⟨l, ls, hls⟩ := List.exists_cons_of_ne_nil (linesBefore_ne_nil cs)
      rw [linesBefore] at hls
      rw [List.cons_append, lines_cons_of_ne hc hstart, hls]
      cases ls <;> rfl

/-! ### Lines that stand in a text -/

/-- The line stands in the text, between line feeds or at an end. -/
def HasLine (text line : List Char) : Prop := '\n' :: line ++ ['\n'] <:+: '\n' :: text ++ ['\n']

theorem HasLine.trans {text part line : List Char} (hpart : HasLine text part)
    (hline : HasLine part line) : HasLine text line :=
  List.IsInfix.trans hline hpart

/-- Joined texts have each of them as a line. -/
theorem hasLine_unlines {ts : List (List Char)} {t : List Char} (ht : t ∈ ts) :
    HasLine (unlines ts) t := by
  induction ts with
  | nil => cases ht
  | cons u us ih =>
    cases us with
    | nil =>
      obtain rfl := List.mem_singleton.1 ht
      exact List.infix_rfl
    | cons v vs =>
      rw [HasLine, unlines_cons_cons]
      rcases List.mem_cons.1 ht with rfl | ht
      · exact ⟨[], unlines (v :: vs) ++ ['\n'], by simp⟩
      · refine List.IsInfix.trans (ih ht) ⟨'\n' :: u, [], ?_⟩
        simp

/-- A line that nothing breaks is one of the lines. -/
theorem HasLine.mem_linesBefore {text line : List Char} (h : HasLine text line) (hne : line ≠ [])
    (hnewline : '\n' ∉ line) (hreturn : '\r' ∉ line) : line ∈ linesBefore text := by
  obtain ⟨front, back, h⟩ := h
  have hlines := congrArg lines h
  have hback : front ++ ('\n' :: line ++ ['\n']) ++ back =
      front ++ '\n' :: (line ++ '\n' :: back) := by simp
  rw [hback, lines_append_newline, lines_append_newline, linesBefore_of_not_mem hnewline,
    chomp_of_not_mem hreturn] at hlines
  have hmem : line ∈ lines ('\n' :: text ++ ['\n']) := by
    rw [← hlines]
    simp
  -- the line feed in front of the text ends an empty line
  exact (List.mem_cons.1 hmem).resolve_left hne

end VpnDirectory.Text
