import Mathlib.Data.List.TakeDrop
import VpnDirectory.Collection.Dictionary
import VpnDirectory.Proofs.Toml.Value

/-!
# Documents read back

A document is written line by line, and `Says` ties lines to the statements that they are read as,
whatever comes after them. The statements of entries with different keys define a table of just
these entries.

* `Says.append` : lines can be put together.
* `says_assignment`, `says_header` : what the lines of an assignment and of a header say.
* `parse_of_says` : a document is what its lines say.
* `build_statements`, `build_statements_table` : the table of a document without headers, and of one
  with a table at its end.
-/

namespace VpnDirectory.Toml

variable {c : Char} {cs cs' text rest : List Char} {key : String} {v : Value}

/-! ### Keys -/

/-- A key that needs no quotation marks. -/
def isBareKey (key : String) : Bool := key ≠ "" && key.toList.all isBare

theorem startsWord_of_isBare (hc : isBare c) : startsWord c := by
  have hne (x : Char) (hx : isBare x = false) : c ≠ x := by
    rintro rfl
    rw [hx] at hc
    cases hc
  simp [startsWord, isBlank, hne ' ' rfl, hne '\t' rfl, hne '#' rfl, hne '\n' rfl, hne '\r' rfl]

/-- A bare key is not empty, and starts like no other key and no header. -/
theorem isBareKey_eq_cons (hkey : isBareKey key) : ∃ c cs, key.toList = c :: cs ∧
    startsWord c ∧ c ≠ '"' ∧ c ≠ '\'' ∧ c ≠ '[' := by
  simp only [isBareKey, Bool.and_eq_true, decide_eq_true_eq, List.all_eq_true] at hkey
  cases hs : key.toList with
  | nil => exact absurd (String.toList_eq_nil_iff.1 hs) hkey.1
  | cons c cs =>
    have hc : isBare c := hkey.2 c (hs ▸ List.mem_cons_self)
    refine ⟨c, cs, rfl, startsWord_of_isBare hc, ?_, ?_, ?_⟩ <;>
    · rintro rfl
      cases hc

theorem readSimpleKey_bare (hkey : isBareKey key) (hrest : ∀ c ∈ rest.head?, isBare c = false) :
    readSimpleKey (key.toList ++ rest) = some (key, rest) := by
  obtain ⟨c, cs, hs, -, hquote, hapostrophe, -⟩ := isBareKey_eq_cons hkey
  have hspan : (key.toList ++ rest).span isBare = (key.toList, rest) := by
    simp only [isBareKey, Bool.and_eq_true, List.all_eq_true] at hkey
    have hstop : rest.takeWhile isBare = [] ∧ rest.dropWhile isBare = rest := by
      cases rest with
      | nil => exact ⟨rfl, rfl⟩
      | cons c rest => simp [hrest c rfl]
    rw [List.span_eq_takeWhile_dropWhile, List.takeWhile_append_of_pos hkey.2,
      List.dropWhile_append_of_pos hkey.2, hstop.1, hstop.2, List.append_nil]
  rw [hs, List.cons_append] at hspan ⊢
  rw [readSimpleKey.eq_def]
  split
  · next heq => exact absurd (List.cons.inj heq).1 hquote
  · next heq => exact absurd (List.cons.inj heq).1 hapostrophe
  · rw [hspan]
    simp only [← hs, String.ofList_toList]

theorem readPath_bare (hkey : isBareKey key) {d : Char} {text' : List Char} (hc : isBare c = false)
    (hskip : skipBlanks (c :: text) = d :: text') (hd : d ≠ '.') :
    readPath (key.toList ++ c :: text) = some (⟨[], key⟩, d :: text') := by
  obtain ⟨x, xs, hs, hword, -⟩ := isBareKey_eq_cons hkey
  have hstart : skipBlanks (key.toList ++ c :: text) = key.toList ++ c :: text := by
    rw [hs]
    exact skipBlanks_word hword
  have hparts : readKeyParts (key.toList ++ c :: text) = some ([key], d :: text') := by
    rw [readKeyParts, hstart, readSimpleKey_bare hkey (by simpa using hc)]
    simp only [hskip]
    split
    · next heq => exact absurd (List.cons.inj heq).1 hd
    · rfl
  rw [readPath, hparts]
  rfl

/-! ### Statements -/

/-- The lines are read as the statements, whatever comes after them. -/
def Says (cs : List Char) (ss : List Statement) : Prop :=
  ∀ rest, readStatements (cs ++ rest) = (readStatements rest).map (ss ++ ·)

variable {ss ss' : List Statement} {s : Statement}

theorem Says.append (h : Says cs ss) (h' : Says cs' ss') : Says (cs ++ cs') (ss ++ ss') := by
  intro rest
  rw [List.append_assoc, h, h', Option.map_map]
  congr 1
  funext x
  rw [Function.comp, List.append_assoc]

theorem says_nil : Says [] [] := by
  intro rest
  cases h : readStatements rest <;> simp [h]

theorem says_newline : Says ['\n'] [] := by
  intro rest
  have hstart : skipComment (skipBlanks ('\n' :: rest)) = '\n' :: rest := rfl
  have hend : skipNewline? ('\n' :: rest) = some rest := rfl
  rw [List.singleton_append, readStatements, hstart]
  simp only [hend, List.nil_append, Option.map_id_fun', id]
  exact if_pos (Nat.lt_succ_self rest.length)

theorem says_line (hc : startsWord c)
    (h : ∀ rest, readStatement (c :: (text ++ '\n' :: rest)) = some (s, '\n' :: rest)) :
    Says (c :: (text ++ ['\n'])) [s] := by
  intro rest
  have hstart : skipComment (skipBlanks (c :: (text ++ '\n' :: rest))) =
      c :: (text ++ '\n' :: rest) := by
    rw [skipBlanks_word hc, skipComment_word hc]
  have hend : endLine ('\n' :: rest) = some rest := rfl
  have hshorter : rest.length < (c :: (text ++ '\n' :: rest)).length := by
    simp only [List.length_cons, List.length_append]
    omega
  rw [List.cons_append, List.append_assoc, List.singleton_append, readStatements, hstart]
  simp only [skipNewline?_word hc, h, hend, if_pos hshorter, List.singleton_append]

theorem says_header (key : String) (hkey : isBareKey key) :
    Says (writeHeader key) [.table ⟨[], key⟩] := by
  obtain ⟨c, cs, hs, -, -, -, hbracket⟩ := isBareKey_eq_cons hkey
  have hline : writeHeader key = '[' :: ((key.toList ++ [']']) ++ ['\n']) := by
    simp [writeHeader]
  rw [hline]
  refine says_line rfl fun rest => ?_
  have hpath : readPath (key.toList ++ ']' :: '\n' :: rest) =
      some (⟨[], key⟩, ']' :: '\n' :: rest) := readPath_bare hkey rfl rfl (by decide)
  rw [List.append_assoc, List.singleton_append, readStatement, hpath]
  · rfl
  · rw [hs]
    rintro _ ⟨⟩
    exact hbracket rfl

/-- The text is read as the value at the end of a line. -/
def Writes (cs : List Char) (v : Value) : Prop :=
  ∀ rest, readValue maxDepth (skipBlanks (cs ++ '\n' :: rest)) = some (v, '\n' :: rest)

theorem says_assignment (key : String) (hkey : isBareKey key) (h : Writes cs v) :
    Says (writeAssignment key cs) [.assign ⟨[], key⟩ v] := by
  obtain ⟨c, text, hs, hword, -, -, hbracket⟩ := isBareKey_eq_cons hkey
  have hline : writeAssignment key cs =
      c :: ((text ++ ' ' :: '=' :: ' ' :: cs) ++ ['\n']) := by
    simp [writeAssignment, hs]
  rw [hline]
  refine says_line hword fun rest => ?_
  have hpath : readPath (key.toList ++ ' ' :: '=' :: ' ' :: (cs ++ '\n' :: rest)) =
      some (⟨[], key⟩, '=' :: ' ' :: (cs ++ '\n' :: rest)) :=
    readPath_bare hkey rfl rfl (by decide)
  have hassign : readAssignment (readValue maxDepth)
      (key.toList ++ ' ' :: '=' :: ' ' :: (cs ++ '\n' :: rest)) =
        some ((⟨[], key⟩, v), '\n' :: rest) := by
    have hvalue : readValue maxDepth (skipBlanks (' ' :: (cs ++ '\n' :: rest))) =
        some (v, '\n' :: rest) := h rest
    rw [readAssignment, hpath]
    simp [hvalue]
  rw [hs] at hassign
  simp only [List.cons_append, List.append_assoc] at hassign ⊢
  rw [readStatement, hassign]
  · rfl
  · exact fun _ heq => hbracket (List.cons.inj heq).1
  · exact fun _ heq => hbracket (List.cons.inj heq).1

theorem writes_writeString (s : String) : Writes (writeString s) (.text s) := by
  intro rest
  rw [skipBlanks_writeString]
  exact readValue_writeString maxDepth s ('\n' :: rest) (by simp) (by simp)

theorem writes_writeBool (b : Bool) : Writes (writeBool b) (.bool b) := by
  intro rest
  have hstart : skipBlanks (writeBool b ++ '\n' :: rest) = writeBool b ++ '\n' :: rest := by
    cases b <;> rfl
  rw [hstart]
  exact readValue_writeBool maxDepth b ('\n' :: rest)

theorem writes_writeStrings (ss : List String) :
    Writes (writeStrings ss) (.array (ss.map .text)) := by
  intro rest
  have hstart : skipBlanks (writeStrings ss ++ '\n' :: rest) = writeStrings ss ++ '\n' :: rest := by
    match ss with
    | [] | [_] | _ :: _ :: _ => rfl
  rw [hstart]
  exact readValue_writeStrings ss ('\n' :: rest)

/-- A document is what its lines say. -/
theorem parse_of_says (h : Says cs ss) (hmark : cs.head? ≠ some '\ufeff') :
    parse (.ofList cs) = build ss := by
  have hread := h []
  have hend : readStatements [] = some [] := by
    rw [readStatements]
    rfl
  rw [List.append_nil, hend, Option.map_some, List.append_nil] at hread
  rw [parse, String.toList_ofList]
  split
  · exact absurd rfl hmark
  · rw [hread]
    rfl

/-! ### Tables -/

/-- The assignments of entries. -/
def assigned (es : Entries) : List (Path × Value) := es.map fun e => (⟨[], e.1⟩, e.2)

/-- The statements of entries. -/
def statements (es : Entries) : List Statement := es.map fun e => .assign ⟨[], e.1⟩ e.2

theorem sections_statements {target target' : Target} {values : List (Path × Value)}
    {ts : List Section} (h : sections target ss = ⟨target', values⟩ :: ts) (es : Entries) :
    sections target (statements es ++ ss) = ⟨target', assigned es ++ values⟩ :: ts := by
  induction es with
  | nil => exact h
  | cons e es ih =>
    rw [statements, List.map_cons, List.cons_append, sections]
    rw [statements] at ih
    rw [ih]
    rfl

namespace Entries

@[simp] theorem get?_cons (k : String) (v : Value) (es : Entries) :
    get? ((k, v) :: es) key = if key = k then some v else es.get? key := lookup_cons k key v es

@[simp] theorem get?_append (es es' : Entries) :
    get? (es ++ es') key = (es.get? key).or (es'.get? key) :=
  List.lookup_append

theorem get?_eq_none {es : Entries} (h : key ∉ es.map Prod.fst) : es.get? key = none := by
  rw [get?, List.lookup_eq_none_iff]
  intro e he
  have hne : key ≠ e.1 := by
    rintro rfl
    exact h (List.mem_map_of_mem he)
  simpa using hne

end Entries

/-- Entries are stored one after another if no key comes twice. -/
theorem assignAll_assigned (es es' : Entries) (hnodup : ((es ++ es').map Prod.fst).Nodup) :
    es.assignAll (assigned es') = some (es ++ es') := by
  induction es' generalizing es with
  | nil =>
    rw [List.append_nil]
    rfl
  | cons e es' ih =>
    have hnew : e.1 ∉ es.map Prod.fst := by
      rw [List.map_append, List.map_cons] at hnodup
      exact fun hmem => (List.nodup_append.1 hnodup).2.2 _ hmem _ List.mem_cons_self rfl
    have hstore : es.assign ⟨[], e.1⟩ e.2 = some (es ++ [e]) := by
      show es.add e.1 e.2 = _
      rw [Entries.add, Entries.get?_eq_none hnew]
    have happend : es ++ e :: es' = es ++ [e] ++ es' := by simp
    rw [happend] at hnodup ⊢
    show (es.assign ⟨[], e.1⟩ e.2).bind (·.assignAll (assigned es')) = _
    rw [hstore, Option.bind_some, ih _ hnodup]

theorem store_root {es : Entries} (hnodup : (es.map Prod.fst).Nodup) :
    Section.store [] ⟨.root, assigned es ++ []⟩ = some es := by
  rw [List.append_nil]
  exact assignAll_assigned [] es hnodup

/-- A document without headers. -/
theorem build_statements {es : Entries} (hnodup : (es.map Prod.fst).Nodup) :
    build (statements es) = some es := by
  have hsections : sections .root (statements es ++ []) = [⟨.root, assigned es ++ []⟩] :=
    sections_statements rfl es
  rw [List.append_nil] at hsections
  rw [build, hsections, List.foldlM_cons, store_root hnodup]
  rfl

/-- A document with a table at its end. -/
theorem build_statements_table {es es' : Entries} (hnodup : (es.map Prod.fst).Nodup)
    (hkey : key ∉ es.map Prod.fst) (hnodup' : (es'.map Prod.fst).Nodup) :
    build (statements es ++ .table ⟨[], key⟩ :: statements es') =
      some (es ++ [(key, .table .header es')]) := by
  have htable : sections (.table ⟨[], key⟩) (statements es' ++ []) =
      [⟨.table ⟨[], key⟩, assigned es' ++ []⟩] := sections_statements rfl es'
  have hsections : sections .root (statements es ++ .table ⟨[], key⟩ :: statements es') =
      ⟨.root, assigned es ++ []⟩ :: sections (.table ⟨[], key⟩) (statements es') :=
    sections_statements rfl es
  rw [List.append_nil] at htable
  have hstore : Section.store es ⟨.table ⟨[], key⟩, assigned es' ++ []⟩ =
      some (es ++ [(key, .table .header es')]) := by
    have hinner : Entries.assignAll [] (assigned es') = some es' :=
      assignAll_assigned [] es' hnodup'
    rw [List.append_nil]
    simp only [Section.store, Entries.openTable, Entries.atParents,
      Entries.get?_eq_none hkey, hinner, Option.bind_eq_bind, Option.bind_some]
  rw [build, hsections, htable, List.foldlM_cons, store_root hnodup]
  show (Section.store es ⟨.table ⟨[], key⟩, assigned es' ++ []⟩).bind some = _
  rw [hstore]
  rfl

end VpnDirectory.Toml
