import Mathlib.Data.List.TakeWhile
import VpnDirectory.Text.Basic

/-!
# Words and blanks

* `Text.IsWord` is a text that is one word: not empty and without blanks.
* `Text.words_append_blank` : words end at a blank; everything else about `Text.words` follows.
* `Text.words_intercalate` : words joined by single spaces are read back as they are.
* `Text.words_trim` : the blanks at the ends of a text belong to no word.
* `Text.head?_trim_word_append` : a text that starts with a word is trimmed on the right alone.
-/

namespace VpnDirectory.Text

/-- The text is a single word. -/
def IsWord (w : List Char) : Prop := w ≠ [] ∧ ∀ c ∈ w, isBlank c = false

instance (w : List Char) : Decidable (IsWord w) :=
  decidable_of_iff (!w.isEmpty && !w.any isBlank) (by simp [IsWord])

variable {c : Char} {x y w cs rest : List Char}

theorem not_blank_of_any (h : cs.any isBlank = false) : ∀ c ∈ cs, isBlank c = false := by
  simpa using h

theorem newline_not_mem (h : ∀ c ∈ cs, isBlank c = false) : '\n' ∉ cs := by
  intro hmem
  have hblank : isBlank '\n' = false := h _ hmem
  cases hblank

@[simp] theorem isBlank_space : isBlank ' ' = true := rfl

/-! ### Words -/

theorem pieces_append_of {p : Char → Bool} (hc : p c) (x y : List Char) :
    pieces p (x ++ c :: y) = pieces p x ++ pieces p y := by
  induction x with
  | nil => simp [pieces, hc]
  | cons d x ih =>
    simp only [List.cons_append, pieces, ih]
    split
    · rfl
    · obtain ⟨q, qs, hq⟩ := List.exists_cons_of_ne_nil (pieces_ne_nil p x)
      simp [hq]

theorem words_append_blank (hc : isBlank c) (x y : List Char) :
    words (x ++ c :: y) = words x ++ words y := by
  rw [words, pieces_append_of hc, List.filter_append]
  rfl

@[simp] theorem words_nil : words [] = [] := rfl

theorem words_cons_blank (hc : isBlank c) (x : List Char) : words (c :: x) = words x := by
  simpa using words_append_blank hc [] x

theorem words_blanks_append (hx : ∀ c ∈ x, isBlank c) : words (x ++ y) = words y := by
  induction x with
  | nil => rfl
  | cons c x ih =>
    rw [List.cons_append, words_cons_blank (hx c List.mem_cons_self)]
    exact ih fun d hd => hx d (List.mem_cons_of_mem c hd)

theorem words_append_blanks (hy : ∀ c ∈ y, isBlank c) : words (x ++ y) = words x := by
  cases y with
  | nil => rw [List.append_nil]
  | cons c y =>
    have hrest : words (y ++ []) = words [] :=
      words_blanks_append fun d hd => hy d (List.mem_cons_of_mem c hd)
    rw [words_append_blank (hy c List.mem_cons_self), ← List.append_nil y, hrest, words_nil,
      List.append_nil]

theorem pieces_of_forall_not {p : Char → Bool} (h : ∀ c ∈ w, p c = false) : pieces p w = [w] := by
  induction w with
  | nil => rfl
  | cons c w ih =>
    rw [pieces, ih fun d hd => h d (List.mem_cons_of_mem c hd)]
    simp [h c List.mem_cons_self]

theorem words_of_isWord (hw : IsWord w) : words w = [w] := by
  have hne : w.isEmpty = false := by simpa using hw.1
  simp [words, pieces_of_forall_not hw.2, hne]

/-- A word and what a blank parts from it. -/
theorem words_isWord_append (hw : IsWord w) (hrest : ∀ c, rest.head? = some c → isBlank c) :
    words (w ++ rest) = w :: words rest := by
  cases rest with
  | nil => rw [List.append_nil, words_of_isWord hw, words_nil]
  | cons c rest =>
    have hc : isBlank c := hrest c rfl
    rw [words_append_blank hc, words_of_isWord hw, words_cons_blank hc]
    rfl

theorem words_word_space (hw : IsWord w) (rest : List Char) :
    words (w ++ ' ' :: rest) = w :: words rest := by
  rw [words_isWord_append hw (by simp), words_cons_blank isBlank_space]

theorem not_of_mem_pieces {p : Char → Bool} (hw : w ∈ pieces p cs) : ∀ c ∈ w, p c = false := by
  induction cs generalizing w with
  | nil =>
    obtain rfl : w = [] := by simpa [pieces] using hw
    simp
  | cons d cs ih =>
    rw [pieces] at hw
    split at hw
    · rcases List.mem_cons.1 hw with rfl | hw
      · simp
      · exact ih hw
    · next hd =>
      obtain ⟨q, qs, hq⟩ := List.exists_cons_of_ne_nil (pieces_ne_nil p cs)
      simp only [hq] at hw ih
      rcases List.mem_cons.1 hw with rfl | hw
      · intro c hc
        rcases List.mem_cons.1 hc with rfl | hc
        · simpa using hd
        · exact ih List.mem_cons_self c hc
      · exact ih (List.mem_cons_of_mem q hw)

theorem isWord_of_mem_words (hw : w ∈ words cs) : IsWord w := by
  obtain ⟨hmem, hne⟩ := List.mem_filter.1 hw
  exact ⟨by simpa using hne, not_of_mem_pieces hmem⟩

/-- Words joined by single spaces are read back as they are. -/
theorem words_intercalate {ws : List (List Char)} (h : ∀ w ∈ ws, IsWord w) :
    words ([' '].intercalate ws) = ws := by
  induction ws with
  | nil => rfl
  | cons w ws ih =>
    have hw := h w List.mem_cons_self
    cases ws with
    | nil => simpa using words_of_isWord hw
    | cons v vs =>
      rw [List.intercalate_cons_cons, List.append_assoc, List.singleton_append,
        words_append_blank (by decide), words_of_isWord hw,
        ih fun u hu => h u (List.mem_cons_of_mem w hu)]
      rfl

/-- A character of no text is not in the texts joined by single spaces, unless it is a space. -/
theorem not_mem_intercalate {ts : List (List Char)} (hc : c ≠ ' ') (h : ∀ t ∈ ts, c ∉ t) :
    c ∉ [' '].intercalate ts := by
  induction ts with
  | nil => simp
  | cons t ts ih =>
    have ht := h t List.mem_cons_self
    cases ts with
    | nil => simpa using ht
    | cons u us =>
      have hrest := ih fun v hv => h v (List.mem_cons_of_mem t hv)
      rw [List.intercalate_cons_cons]
      simp [ht, hc, hrest]

/-! ### Trimming -/

/-- What is trimmed off consists of blanks. -/
theorem exists_blanks_trim (cs : List Char) :
    ∃ a b, cs = a ++ trim cs ++ b ∧ (∀ c ∈ a, isBlank c) ∧ ∀ c ∈ b, isBlank c := by
  let front := cs.dropWhile isBlank
  refine ⟨cs.takeWhile isBlank, (front.reverse.takeWhile isBlank).reverse, ?_, ?_, ?_⟩
  · have hback : front = trim cs ++ (front.reverse.takeWhile isBlank).reverse := by
      rw [trim, ← List.reverse_append, List.takeWhile_append_dropWhile, List.reverse_reverse]
    rw [List.append_assoc, ← hback]
    exact List.takeWhile_append_dropWhile.symm
  · exact fun c hc => List.mem_takeWhile_imp hc
  · exact fun c hc => List.mem_takeWhile_imp (List.mem_reverse.1 hc)

/-- The blanks at the ends of a text belong to no word. -/
@[simp] theorem words_trim (cs : List Char) : words (trim cs) = words cs := by
  obtain ⟨a, b, hcs, ha, hb⟩ := exists_blanks_trim cs
  calc words (trim cs) = words (trim cs ++ b) := (words_append_blanks hb).symm
    _ = words (a ++ (trim cs ++ b)) := (words_blanks_append ha).symm
    _ = words cs := by rw [← List.append_assoc, ← hcs]

/-- A text that starts with a word is trimmed on the right alone. -/
theorem head?_trim_word_append (hw : IsWord w) (rest : List Char) :
    (trim (w ++ rest)).head? = w.head? := by
  obtain ⟨c, w, rfl⟩ := List.exists_cons_of_ne_nil hw.1
  have hc : ¬ isBlank c := by simpa using hw.2 c List.mem_cons_self
  obtain ⟨a, b, hcs, ha, hb⟩ := exists_blanks_trim (c :: w ++ rest)
  generalize trim (c :: w ++ rest) = t at hcs ⊢
  cases a with
  | cons d a =>
    -- the first character of the word would be trimmed off on the left
    obtain ⟨rfl, -⟩ : c = d ∧ _ := by simpa using hcs
    exact absurd (ha c List.mem_cons_self) hc
  | nil =>
    cases t with
    | cons d t =>
      obtain ⟨rfl, -⟩ : c = d ∧ _ := by simpa using hcs
      rfl
    | nil =>
      -- all characters would be trimmed off on the right
      have hmem : c ∈ b := by
        rw [← show c :: w ++ rest = b by simpa using hcs]
        simp
      exact absurd (hb c hmem) hc

/-- A blank at the end of a text is trimmed off. -/
theorem trim_append_blank (hc : isBlank c) (cs : List Char) : trim (cs ++ [c]) = trim cs := by
  rw [trim, trim, List.dropWhile_append]
  split
  · next h =>
    have hnil : cs.dropWhile isBlank = [] := by simpa using h
    simp [hnil, hc]
  · simp [hc]

end VpnDirectory.Text
