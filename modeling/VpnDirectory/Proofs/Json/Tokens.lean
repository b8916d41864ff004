import VpnDirectory.Json.Printer
import VpnDirectory.Json.Token

/-!
# The tokens of a printed value

Every value has its tokens, and a text on indented lines is cut into those of the value that it was
printed from. Numbers are left out, since reading a double back does not have to give the same one.

* `Json.tokens` : the tokens of a value.
* `Json.Token.Scans` : a text is cut into tokens, whatever blanks stand before it and whatever comes
  after it. Such texts can be put together (`Json.Token.Scans.append`).
* `Json.Token.scans_quote` : a text between quotation marks is read back.
* `Json.scan_pretty` : a printed value is cut into its tokens.
-/

namespace VpnDirectory.Json

/-! ### Tokens of a value -/

mutual

/-- The tokens of a value. -/
def tokens : Json → List Token
  | null => [.null]
  | bool b => [.bool b]
  | number n => [.number (some n)]
  | text s => [.text (some s)]
  | array [] => [.openBracket, .closeBracket]
  | array (x :: xs) => .openBracket :: (tokens x ++ itemTokens xs)
  | object [] => [.openBrace, .closeBrace]
  | object ((k, v) :: ms) =>
    .openBrace :: .text (some k) :: .colon :: (tokens v ++ memberTokens ms)

/-- The tokens of the items after the first one, and of the end of the array. -/
def itemTokens : List Json → List Token
  | [] => [.closeBracket]
  | x :: xs => .comma :: (tokens x ++ itemTokens xs)

/-- The tokens of the members after the first one, and of the end of the object. -/
def memberTokens : List (String × Json) → List Token
  | [] => [.closeBrace]
  | (k, v) :: ms => .comma :: .text (some k) :: .colon :: (tokens v ++ memberTokens ms)

end

/-- No number stands in the value. -/
inductive Numberless : Json → Prop
  | null : Numberless null
  | bool (b : Bool) : Numberless (bool b)
  | text (s : String) : Numberless (text s)
  | array {xs : List Json} (h : ∀ x ∈ xs, Numberless x) : Numberless (array xs)
  | object {ms : Members} (h : ∀ m ∈ ms, Numberless m.2) : Numberless (object ms)

/-! ### Texts read back -/

namespace Token

theorem unit?_digitChar : ∀ n < 0x20,
    unit? '0' '0' (Nat.digitChar (n / 16)) (Nat.digitChar (n % 16)) = some n := by decide

/-- One character is read back from its written form. -/
theorem readText_escape (cs : List Char) (c : Char) (rest : List Char) :
    readText ⟨some cs, none⟩ (escape c ++ rest) = readText ⟨some (c :: cs), none⟩ rest := by
  fun_cases escape c with
  | case8 c _ _ _ _ _ _ _ hcontrol =>
    have hunit := unit?_digitChar c.toNat hcontrol
    have hlow : isLowSurrogate c.toNat = false := by simp [isLowSurrogate]; omega
    have hhigh : isHighSurrogate c.toNat = false := by simp [isHighSurrogate]; omega
    simp only [List.cons_append, List.nil_append, readText, hunit]
    simp [OpenText.addUnit, hlow, hhigh, OpenText.add, OpenText.settled]
  | case9 c hquote hbackslash _ _ _ _ _ hplain =>
    have hkept : ¬ (c.toNat < 0x20 ∨ c = '\\') := not_or.2 ⟨hplain, hbackslash⟩
    rw [List.singleton_append, readText, if_neg hkept]
    · rfl
    · exact hquote
    · exact fun _ _ _ _ _ h _ => hbackslash h
    · exact fun _ _ h _ => hbackslash h
  | _ => rfl

theorem readText_flatMap_escape (done cs rest : List Char) :
    readText ⟨some done, none⟩ (cs.flatMap escape ++ '"' :: rest) =
      some (some (String.ofList (done.reverse ++ cs)), rest) := by
  induction cs generalizing done with
  | nil => simp [readText, OpenText.text?, OpenText.settled]
  | cons c cs ih =>
    rw [List.flatMap_cons, List.append_assoc, readText_escape, ih]
    simp

theorem readText_quote (s : String) (rest : List Char) :
    readText {} (s.toList.flatMap escape ++ '"' :: rest) = some (some s, rest) := by
  have hread := readText_flatMap_escape [] s.toList rest
  rwa [List.reverse_nil, List.nil_append, String.ofList_toList] at hread

/-! ### Texts cut into tokens -/

/-- The text is cut into the tokens, whatever blanks stand before it and whatever comes after it. -/
def Scans (cs : List Char) (ts : List Token) : Prop :=
  ∀ blanks rest, (∀ c ∈ blanks, isBlank c) → scan (blanks ++ cs ++ rest) = ts ++ scan rest

variable {cs cs' : List Char} {ts ts' : List Token} {t : Token} {c : Char}

theorem Scans.append (h : Scans cs ts) (h' : Scans cs' ts') : Scans (cs ++ cs') (ts ++ ts') := by
  intro blanks rest hblanks
  have hrest : scan (cs' ++ rest) = ts' ++ scan rest := h' [] rest (by simp)
  calc scan (blanks ++ (cs ++ cs') ++ rest) = scan (blanks ++ cs ++ (cs' ++ rest)) := by
        simp only [List.append_assoc]
    _ = ts ++ ts' ++ scan rest := by rw [h blanks _ hblanks, hrest, List.append_assoc]

theorem Scans.after_blanks (h : Scans cs ts) (blanks : List Char)
    (hblanks : ∀ c ∈ blanks, isBlank c) : Scans (blanks ++ cs) ts := by
  intro before rest hbefore
  rw [← List.append_assoc]
  exact h (before ++ blanks) rest (List.forall_mem_append.2 ⟨hbefore, hblanks⟩)

/-- One token. -/
theorem scans_token (hc : isBlank c = false) (h : ∀ rest, next (c :: (cs ++ rest)) = (t, rest)) :
    Scans (c :: cs) [t] := by
  intro blanks rest hblanks
  have hstart : (blanks ++ c :: cs ++ rest).dropWhile isBlank = c :: (cs ++ rest) := by
    rw [List.append_assoc, List.dropWhile_append_of_pos hblanks, List.cons_append,
      List.dropWhile_cons_of_neg (by simp [hc])]
  have hshorter : rest.length < (blanks ++ c :: cs ++ rest).length := by
    simp only [List.length_append, List.length_cons]
    omega
  rw [scan, hstart]
  simp only [h, if_pos hshorter, List.singleton_append]

theorem scans_quote (s : String) : Scans (quote s) [.text (some s)] := by
  rw [quote, List.cons_append]
  refine scans_token rfl fun rest => ?_
  rw [List.append_assoc, List.singleton_append, next, readText_quote]

end Token

/-! ### Printed values -/

open Token (Scans)

theorem isBlank_of_mem_newline {level : Nat} : ∀ c ∈ newline level, Token.isBlank c := by
  intro c hc
  rw [newline, List.mem_cons] at hc
  rcases hc with rfl | hc
  · rfl
  · rw [List.eq_of_mem_replicate hc]
    rfl

/-- A token that starts a line. -/
theorem scans_newline (level : Nat) {cs : List Char} {ts : List Token} (h : Scans cs ts) :
    Scans (newline level ++ cs) ts := h.after_blanks _ isBlank_of_mem_newline

/-- A member on a line of its own. -/
theorem scans_member (level : Nat) (k : String) {cs : List Char} {ts : List Token}
    (h : Scans cs ts) :
    Scans (newline level ++ quote k ++ ':' :: ' ' :: cs) (.text (some k) :: .colon :: ts) := by
  have hkey : Scans (newline level ++ quote k) [.text (some k)] :=
    scans_newline level (Token.scans_quote k)
  have hcolon : Scans [':'] [.colon] := Token.scans_token rfl fun _ => rfl
  have hvalue : Scans (' ' :: cs) ts := h.after_blanks [' '] (List.forall_mem_singleton.2 rfl)
  simpa using (hkey.append hcolon).append hvalue

mutual

theorem scans_prettyChars (level : Nat) (v : Json) (hv : v.Numberless) :
    Scans (v.prettyChars level) v.tokens := by
  match v, hv with
  | null, _ => exact Token.scans_token rfl fun _ => rfl
  | bool true, _ => exact Token.scans_token rfl fun _ => rfl
  | bool false, _ => exact Token.scans_token rfl fun _ => rfl
  | text s, _ => exact Token.scans_quote s
  | array [], _ =>
    have hopen : Scans ['['] [.openBracket] := Token.scans_token rfl fun _ => rfl
    exact hopen.append (Token.scans_token rfl fun _ => rfl)
  | array (x :: xs), .array h =>
    rw [List.forall_mem_cons] at h
    have hopen : Scans ['['] [.openBracket] := Token.scans_token rfl fun _ => rfl
    have hx := scans_newline (level + 1) (scans_prettyChars (level + 1) x h.1)
    rw [prettyChars, tokens]
    simpa using (hopen.append hx).append (scans_prettyItems level xs h.2)
  | object [], _ =>
    have hopen : Scans ['\x7b'] [.openBrace] := Token.scans_token rfl fun _ => rfl
    exact hopen.append (Token.scans_token rfl fun _ => rfl)
  | object ((k, v) :: ms), .object h =>
    rw [List.forall_mem_cons] at h
    have hopen : Scans ['\x7b'] [.openBrace] := Token.scans_token rfl fun _ => rfl
    have hmember := scans_member (level + 1) k (scans_prettyChars (level + 1) v h.1)
    rw [prettyChars, tokens]
    simpa using (hopen.append hmember).append (scans_prettyMembers level ms h.2)

theorem scans_prettyItems (level : Nat) (xs : List Json) (hxs : ∀ x ∈ xs, x.Numberless) :
    Scans (prettyItems level xs) (itemTokens xs) := by
  match xs with
  | [] => exact scans_newline level (Token.scans_token rfl fun _ => rfl)
  | x :: xs =>
    rw [List.forall_mem_cons] at hxs
    have hcomma : Scans [','] [.comma] := Token.scans_token rfl fun _ => rfl
    have hx := scans_newline (level + 1) (scans_prettyChars (level + 1) x hxs.1)
    rw [prettyItems, itemTokens]
    simpa using (hcomma.append hx).append (scans_prettyItems level xs hxs.2)

theorem scans_prettyMembers (level : Nat) (ms : Members) (hms : ∀ m ∈ ms, m.2.Numberless) :
    Scans (prettyMembers level ms) (memberTokens ms) := by
  match ms with
  | [] => exact scans_newline level (Token.scans_token rfl fun _ => rfl)
  | (k, v) :: ms =>
    rw [List.forall_mem_cons] at hms
    have hcomma : Scans [','] [.comma] := Token.scans_token rfl fun _ => rfl
    have hmember := scans_member (level + 1) k (scans_prettyChars (level + 1) v hms.1)
    rw [prettyMembers, memberTokens]
    simpa using (hcomma.append hmember).append (scans_prettyMembers level ms hms.2)

end

/-- A printed value is cut into its tokens. -/
theorem scan_pretty {v : Json} (h : v.Numberless) : Token.scan v.pretty.toList = v.tokens := by
  have hscan := scans_prettyChars 0 v h [] [] (by simp)
  have hend : Token.scan [] = [] := by rw [Token.scan]; rfl
  rw [pretty, String.toList_ofList]
  rwa [List.nil_append, List.append_nil, hend, List.append_nil] at hscan

end VpnDirectory.Json
