import VpnDirectory.Json.Record
import VpnDirectory.Proofs.Fallible
import VpnDirectory.Proofs.Json.Tokens

/-!
# Reading a record that was printed

What a reader reads is said of the tokens of a value, whatever comes after them. A record is read
member by member; `Json.Stored` says what its members are, in the order of its fields.

* `Json.Reads` : the reader reads the value.
* `Json.Reads.record` : a record is read from an object that has members for some of its fields.
* `Json.parseRecord_pretty` : a record is read back from its text on indented lines.
-/

namespace VpnDirectory.Json

/-- The reader reads `a` from the value where so many levels of nesting are left, and gives what
follows the value. -/
def Reads {α : Type} (levels : Nat) (r : Reader α) (v : Json) (a : α) : Prop :=
  ∀ depth ts, levels ≤ depth → r depth (v.tokens ++ ts) = .ok (a, ts)

/-! ### Values -/

namespace Reads

variable {α σ : Type} {levels : Nat} {r : Reader α} {v : Json} {a : α}

theorem text (s : String) : Reads levels Reader.text (.text s) s := fun _ _ _ => rfl

theorem bool (b : Bool) : Reads levels Reader.bool (.bool b) b := fun _ _ _ => rfl

/-- A value other than null is read as it is. -/
theorem optional (h : Reads levels r v a) (hv : v ≠ null) :
    Reads levels (Reader.optional r) v (some a) := by
  intro depth ts hdepth
  have hnull : ∀ us, v.tokens ++ ts ≠ .null :: us := by
    intro us heq
    match v with
    | null => exact hv rfl
    | Json.bool b | number n | Json.text s => rw [tokens] at heq; cases heq
    | array [] | array (x :: xs) | object [] | object (m :: ms) => rw [tokens] at heq; cases heq
  rw [Reader.optional, h depth ts hdepth]
  · rfl
  · exact hnull

theorem textItems_itemTokens (x : String) (xs : List String) (ts : List Token) :
    Reader.textItems (.text (some x) :: (itemTokens (xs.map Json.text) ++ ts)) =
      .ok (x :: xs, ts) := by
  induction xs generalizing x with
  | nil => rfl
  | cons y ys ih =>
    rw [List.map_cons, itemTokens, tokens, List.singleton_append, List.cons_append,
      List.cons_append, Reader.textItems, ih, ok_bind]

theorem texts (xs : List String) : Reads 1 Reader.texts (.array (xs.map .text)) xs := by
  intro depth ts hdepth
  have hinside : depth ≠ 0 := by omega
  cases xs with
  | nil =>
    rw [List.map_nil, tokens]
    exact if_neg hinside
  | cons x xs =>
    rw [List.map_cons, tokens, tokens]
    exact (if_neg hinside).trans (textItems_itemTokens x xs ts)

theorem of (h : Reads levels r v a) (name : String) (store : σ → α → σ) (s : σ) :
    Reads levels ((Field.of name r store).read s) v (store s a) := by
  intro depth ts hdepth
  show r depth (v.tokens ++ ts) >>= (fun x => .ok (store s x.1, x.2)) = _
  rw [h depth ts hdepth, ok_bind]

end Reads

/-! ### Members -/

section

variable {σ : Type} {levels : Nat} {known fields : List (Field σ)} {ms : Members} {s s' : σ}

/-- The members belong to the fields in their order, some of which are left out, and are read one
after another. -/
inductive Stored (levels : Nat) : List (Field σ) → σ → Members → σ → Prop
  | nil (s : σ) : Stored levels [] s [] s
  | skip {fields : List (Field σ)} {s s' : σ} {ms : Members} (f : Field σ)
    (h : Stored levels fields s ms s') : Stored levels (f :: fields) s ms s'
  | cons {fields : List (Field σ)} {s s' s'' : σ} {ms : Members} {f : Field σ} {v : Json}
    (hv : Reads levels (f.read s) v s') (h : Stored levels fields s' ms s'') :
    Stored levels (f :: fields) s ((f.name, v) :: ms) s''

/-- What is read after a member. -/
def readOn (known : List (Field σ)) (depth fuel : Nat) (seen : List String) (s : σ) :
    List Token → Except ReadError (σ × List Token)
  | .comma :: ts => readMembers known depth fuel seen s ts
  | .closeBrace :: ts => .ok (s, ts)
  | _ => .error .malformed

/-- A member of a known field that has not been seen. -/
theorem readMembers_member {depth : Nat} {f : Field σ} {v : Json} {seen : List String}
    (hfound : known.find? (·.name == f.name) = some f) (hseen : f.name ∉ seen)
    (hv : Reads levels (f.read s) v s') (hdepth : levels ≤ depth) (fuel : Nat) (ts : List Token) :
    readMembers known depth (fuel + 1) seen s
      (.text (some f.name) :: .colon :: (v.tokens ++ ts)) =
        readOn known depth fuel (f.name :: seen) s' ts := by
  have hunseen : ((some f).isSome && seen.contains f.name) = false := by simp [hseen]
  rw [readMembers, hfound]
  simp only [hunseen, hv depth ts hdepth, ok_bind]
  rfl

theorem readOn_memberTokens {depth : Nat} (hdepth : levels ≤ depth)
    (h : Stored levels fields s ms s')
    (hfound : ∀ f ∈ fields, known.find? (·.name == f.name) = some f)
    (hnodup : (fields.map (·.name)).Nodup) {fuel : Nat} (hfuel : ms.length ≤ fuel)
    {seen : List String} (hseen : ∀ f ∈ fields, f.name ∉ seen) (ts : List Token) :
    readOn known depth fuel seen s (memberTokens ms ++ ts) = .ok (s', ts) := by
  induction h generalizing fuel seen with
  | nil s => rfl
  | skip f h ih =>
    rw [List.forall_mem_cons] at hfound hseen
    rw [List.map_cons, List.nodup_cons] at hnodup
    exact ih hfound.2 hnodup.2 hfuel hseen.2
  | @cons fields s s' s'' ms f v hv h ih =>
    rw [List.forall_mem_cons] at hfound hseen
    rw [List.map_cons, List.nodup_cons] at hnodup
    obtain ⟨fuel, rfl⟩ : ∃ n, fuel = n + 1 := ⟨fuel - 1, by simp at hfuel; omega⟩
    -- the fields that are left have other names than this one
    have hseen' : ∀ g ∈ fields, g.name ∉ f.name :: seen := by
      intro g hg
      rw [List.mem_cons, not_or]
      refine ⟨fun heq => hnodup.1 ?_, hseen.2 g hg⟩
      rw [← heq]
      exact List.mem_map_of_mem hg
    have hrest := ih hfound.2 hnodup.2 (Nat.le_of_succ_le_succ hfuel) hseen'
    simp only [memberTokens, List.cons_append, List.append_assoc]
    rw [readOn, readMembers_member hfound.1 hseen.1 hv hdepth, hrest]

/-! ### Records -/

theorem find?_name_of_nodup (hnodup : (fields.map (·.name)).Nodup) :
    ∀ f ∈ fields, fields.find? (·.name == f.name) = some f := by
  induction fields with
  | nil => simp
  | cons g fields ih =>
    rw [List.map_cons, List.nodup_cons] at hnodup
    intro f hf
    rcases List.mem_cons.1 hf with rfl | hf
    · rw [List.find?_cons_of_pos (by simp)]
    · have hne : g.name ≠ f.name := fun heq => hnodup.1 (heq ▸ List.mem_map_of_mem hf)
      rw [List.find?_cons_of_neg (by simpa using hne), ih hnodup.2 f hf]

theorem length_memberTokens (ms : Members) : ms.length < (memberTokens ms).length := by
  induction ms with
  | nil => decide
  | cons m ms ih =>
    obtain ⟨k, v⟩ := m
    simp only [memberTokens, List.length_cons, List.length_append]
    omega

/-- A record is read from an object that has members for some of its fields. -/
theorem Reads.record (hnodup : (known.map (·.name)).Nodup) (h : Stored levels known s ms s')
    (expected : String) :
    Reads (levels + 1) (readRecord known expected s) (.object ms) s' := by
  intro depth ts hdepth
  obtain ⟨depth, rfl⟩ : ∃ n, depth = n + 1 := ⟨depth - 1, by omega⟩
  have hread (fuel : Nat) (hfuel : ms.length ≤ fuel) :
      readOn known depth fuel [] s (memberTokens ms ++ ts) = .ok (s', ts) :=
    readOn_memberTokens (Nat.le_of_succ_le_succ hdepth) h (find?_name_of_nodup hnodup) hnodup hfuel
      (by simp) ts
  cases ms with
  | nil => exact hread 0 (Nat.le_refl 0)
  | cons m ms =>
    obtain ⟨k, v⟩ := m
    have hlength := length_memberTokens ms
    simp only [memberTokens, List.cons_append, List.append_assoc, readOn] at hread
    simp only [tokens, List.cons_append, List.append_assoc]
    refine hread _ ?_
    simp only [List.length_cons, List.length_append]
    omega

/-- A record is read back from its text on indented lines. -/
theorem parseRecord_pretty (hnodup : (known.map (·.name)).Nodup) (h : Stored levels known s ms s')
    (hlevels : levels < maxDepth) (hnumberless : (object ms).Numberless) (expected : String) :
    parseRecord known expected s (object ms).pretty = .ok s' := by
  have hread := Reads.record hnodup h expected maxDepth [] hlevels
  rw [List.append_nil] at hread
  rw [parseRecord, scan_pretty hnumberless, hread]
  rfl

end

end VpnDirectory.Json
