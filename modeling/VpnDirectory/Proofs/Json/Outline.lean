import Mathlib.Data.List.Basic
import VpnDirectory.Proofs.Json.Fields
import VpnDirectory.Proofs.Json.Record

/-!
# Records in a text and in its value

A record is read from a text member by member, each value by itself. The text also has a value as a
whole. What is read into the fields of the record is what stands in this value.

* `Json.readInside_of_value` : a value that is read by itself is also read inside of containers,
  which go on behind it.
* `Json.outline?` : the value of a text. Unsound numbers and texts are put up with, since a record
  may hold them where it skips a value.
* `Json.IsLenient` : the fields of the record take values of any shape.
* `Json.exists_outline_of_parseRecord` : such a record is made of the fields of the value.
-/

namespace VpnDirectory.Json

namespace Rules

/-- What these rules accept counts the same where it is skipped. -/
structure Sound (rules : Rules) : Prop where
  number {o : Option Number} {n : Number} (h : rules.number o = some n) : skipped.number o = some n
  text {o : Option String} {s : String} (h : rules.text o = some s) : skipped.text o = some s

theorem sound_used (depth : Nat) : (used depth).Sound where
  number h := by
    cases h
    rfl
  text h := by
    cases h
    rfl

theorem sound_skipped : skipped.Sound := ⟨id, id⟩

end Rules

variable {rules : Rules} {v : Json} {ts rest : List Token}

/-- A value that is read by itself is read inside of containers too, and these go on after it. -/
theorem readInside_skipped (hrules : rules.Sound) :
    (∀ inner ts, ∀ r, readInside rules inner ts = some r → ∀ outer,
      readInside .skipped (inner ++ outer) ts = continueWith .skipped r.1 outer r.2) ∧
    ∀ v inner ts, ∀ r, continueWith rules v inner ts = some r → ∀ outer,
      continueWith .skipped v (inner ++ outer) ts = continueWith .skipped r.1 outer r.2 := by
  have hallows (n : Nat) : Rules.skipped.allows n = true := rfl
  apply readInside.mutual_induct rules
  case case1 | case2 =>
    intros
    rename_i ih r h outer
    rw [readInside] at h ⊢
    exact ih r h outer
  case case3 =>
    intro inner o ts n hn ih r h outer
    rw [readInside] at h ⊢
    rw [hn] at h
    rw [hrules.number hn]
    exact ih r h outer
  case case5 =>
    intro inner o ts s hs ih r h outer
    rw [readInside] at h ⊢
    rw [hs] at h
    rw [hrules.text hs]
    exact ih r h outer
  case case7 | case10 =>
    intro inner hallow ts ih r h outer
    rw [readInside, if_pos hallow] at h
    rw [readInside, if_pos (hallows _)]
    exact ih r h outer
  case case8 =>
    intro inner hallow ts hopen ih r h outer
    rw [readInside, if_pos hallow] at h
    rw [readInside, if_pos (hallows _)]
    · exact ih r h outer
    · exact hopen
    · exact hopen
  case case11 =>
    intro inner hallow o ts s hs ih r h outer
    rw [readInside, if_pos hallow] at h
    rw [readInside, if_pos (hallows _)]
    simp only [hs] at h
    simp only [hrules.text hs]
    exact ih r h outer
  case case16 =>
    intro v ts r h outer
    rw [continueWith] at h
    cases h
    rfl
  case case17 | case18 =>
    intro v done inner ts ih r h outer
    rw [continueWith] at h
    rw [List.cons_append, continueWith]
    exact ih r h outer
  case case19 =>
    intro v done key inner o ts s hs ih r h outer
    rw [continueWith] at h
    rw [List.cons_append, continueWith]
    rw [hs] at h
    rw [hrules.text hs]
    exact ih r h outer
  case case21 =>
    intro v done key inner ts ih r h outer
    rw [continueWith] at h
    rw [List.cons_append, continueWith]
    exact ih r h outer
  -- in the other cases nothing is read
  case case9 | case14 =>
    intro inner ts hallow r h
    unfold readInside at h
    rw [if_neg hallow] at h
    cases h
  all_goals
    intros
    simp_all [readInside, continueWith]

/-- A value that is read by itself, as it stands inside a container. -/
theorem readInside_of_value {rules : Rules} {v : Json} {ts rest : List Token} (hrules : rules.Sound)
    (h : readInside rules [] ts = some (v, rest)) (stack : List Frame) :
    readInside .skipped stack ts = continueWith .skipped v stack rest :=
  (readInside_skipped hrules).1 [] ts (v, rest) h stack

theorem readValue_eq_ok_iff {rules : Rules} {ts : List Token} {r : Json × List Token} :
    readValue rules ts = .ok r ↔ readInside rules [] ts = some r := by
  unfold readValue
  cases readInside rules [] ts <;> simp

/-! ### Outlines -/

/-- The value of a text, if what is unsound in it is put up with as where a value is skipped. -/
def outline? (text : String) : Option Json :=
  match readInside .skipped [] (Token.scan text.toList) with
  | some (v, []) => some v
  | _ => none

theorem atEnd_eq_ok_iff {α : Type} {r : α × List Token} {a : α} :
    atEnd r = .ok a ↔ r = (a, []) := by
  obtain ⟨b, _ | _⟩ := r <;> simp [atEnd]

/-! ### Members -/

section

variable {σ : Type} {known : List (Field σ)} {ofFields : (String → Option Json) → σ} {depth : Nat}
  {s s' : σ} {ts rest : List Token}

/-- The fields with one of them set. -/
def setField (get : String → Option Json) (name : String) (v : Json) : String → Option Json :=
  fun other => if other = name then some v else get other

/-- A record whose fields take values of any shape: it is a function of what stands in them. -/
structure IsLenient (known : List (Field σ)) (ofFields : (String → Option Json) → σ) : Prop where
  read {f : Field σ} (hf : f ∈ known) (get : String → Option Json) (depth : Nat) (ts : List Token) :
    f.read (ofFields get) depth ts = (Reader.value depth ts).map fun r =>
      (ofFields (setField get f.name r.1), r.2)
  congr {get get' : String → Option Json} (h : ∀ f ∈ known, get f.name = get' f.name) :
    ofFields get = ofFields get'
  nodup : (known.map (·.name)).Nodup

/-- A member is read by its field if it has one, and skipped otherwise. -/
def readMember (known : List (Field σ)) (depth : Nat) (key : String) (s : σ) (ts : List Token) :
    Except ReadError (σ × List Token) :=
  match known.find? (·.name == key) with
  | some f => f.read s depth ts
  | none => (readValue .skipped ts).map fun r => (s, r.2)

/-- Reading members starts with a key and its value, and goes on behind them. -/
theorem readMembers_eq_ok {fuel : Nat} {seen : List String}
    (h : readMembers known depth fuel seen s ts = .ok (s', rest)) :
    ∃ n key ts₁ r, fuel = n + 1 ∧ ts = .text (some key) :: .colon :: ts₁ ∧
      readMember known depth key s ts₁ = .ok r ∧
      readOn known depth n (key :: seen) r.1 r.2 = .ok (s', rest) := by
  obtain ⟨n, key, ts₁, rfl, rfl⟩ :
      ∃ n key ts₁, fuel = n + 1 ∧ ts = .text (some key) :: .colon :: ts₁ := by
    unfold readMembers at h
    split at h
    · simp only at h
      split at h
      · cases h
      · split at h
        · exact ⟨_, _, _, rfl, rfl⟩
        · cases h
    · cases h
  have hstep : readMember known depth key s ts₁ >>=
      (fun r => readOn known depth n (key :: seen) r.1 r.2) = .ok (s', rest) := by
    rw [readMembers] at h
    simp only at h
    unfold readMember
    split at h
    · cases h
    · revert h
      cases known.find? (·.name == key) with
      | some f => exact id
      | none =>
        cases readValue .skipped ts₁ with
        | ok r => exact id
        | error e => exact id
  obtain ⟨r, hr, hon⟩ := bind_eq_ok_iff.1 hstep
  exact ⟨n, key, ts₁, r, rfl, rfl, hr, hon⟩

/-- What a member is read as and what it leaves stored. -/
theorem readMember_outline (h : IsLenient known ofFields) {done : Members} {key : String}
    {r : σ × List Token}
    (hread : readMember known depth key (ofFields fun name => done.get? name) ts = .ok r) :
    ∃ v, (∀ stack, readInside .skipped stack ts = continueWith .skipped v stack r.2) ∧
      r.1 = ofFields fun name => (done.insert key v).get? name := by
  unfold readMember at hread
  cases hfind : known.find? (·.name == key) with
  | some f =>
    have hf : f ∈ known := List.mem_of_find?_eq_some hfind
    obtain rfl : f.name = key := by simpa using List.find?_some hfind
    rw [hfind] at hread
    dsimp only at hread
    rw [h.read hf] at hread
    obtain ⟨⟨v, rest⟩, hvalue, rfl⟩ := map_eq_ok_iff.1 hread
    refine ⟨v, readInside_of_value (Rules.sound_used depth) (readValue_eq_ok_iff.1 hvalue), ?_⟩
    exact congrArg ofFields (funext fun other => (Members.get?_insert done f.name other v).symm)
  | none =>
    rw [hfind] at hread
    obtain ⟨⟨v, rest⟩, hvalue, rfl⟩ := map_eq_ok_iff.1 hread
    refine ⟨v, readInside_of_value Rules.sound_skipped (readValue_eq_ok_iff.1 hvalue), ?_⟩
    refine h.congr fun f hf => ?_
    have hne : f.name ≠ key := by simpa using List.find?_eq_none.1 hfind f hf
    rw [Members.get?_insert, if_neg hne]

theorem readMembers_outline (h : IsLenient known ofFields) {fuel : Nat} {seen : List String}
    {done : Members}
    (hread : readMembers known depth fuel seen (ofFields fun name => done.get? name) ts =
      .ok (s, rest)) :
    ∃ (key : String) (ts₁ : List Token) (ms : Members), ts = .text (some key) :: .colon :: ts₁ ∧
      readInside .skipped [.object done key] ts₁ = some (.object ms, rest) ∧
      s = ofFields fun name => ms.get? name := by
  induction fuel generalizing seen done ts with
  | zero => cases hread
  | succ n ih =>
    obtain ⟨n, key, ts₁, ⟨s₁, ts₂⟩, hn, rfl, hmember, hon⟩ := readMembers_eq_ok hread
    cases hn
    obtain ⟨v, hv, rfl⟩ := readMember_outline h hmember
    refine ⟨key, ts₁, ?_⟩
    rw [hv]
    dsimp only at hon ⊢
    unfold readOn at hon
    split at hon
    · next ts₃ =>
      obtain ⟨key', ts₄, ms, rfl, hrest, hs⟩ := ih hon
      exact ⟨ms, rfl, hrest, hs⟩
    · cases hon
      exact ⟨done.insert key v, rfl, by rw [continueWith, continueWith], rfl⟩
    · cases hon

/-! ### Elements -/

/-- The items of an array as the fields of a record, in order. -/
def itemFields (known : List (Field σ)) (xs : List Json) : String → Option Json :=
  fun name => xs[(known.map (·.name)).idxOf name]?

/-- One more item is the field that comes next. -/
theorem IsLenient.append (h : IsLenient known ofFields) {before fields : List (Field σ)}
    {f : Field σ} {xs : List Json} (hknown : known = before ++ f :: fields)
    (hlength : before.length = xs.length) (v : Json) :
    ofFields (setField (itemFields known xs) f.name v) =
      ofFields (itemFields known (xs ++ [v])) := by
  have hnames : known.map (·.name) = before.map (·.name) ++ f.name :: fields.map (·.name) := by
    simp [hknown]
  have hbefore : f.name ∉ before.map (·.name) := by
    have hnodup := h.nodup
    rw [hnames, List.nodup_append] at hnodup
    exact fun hmem => hnodup.2.2 _ hmem _ List.mem_cons_self rfl
  have hplace : (known.map (·.name)).idxOf f.name = xs.length := by
    rw [hnames, List.idxOf_append_of_notMem hbefore, List.idxOf_cons_self, List.length_map, hlength,
      Nat.add_zero]
  refine h.congr fun g hg => ?_
  unfold setField itemFields
  by_cases hname : g.name = f.name
  · rw [if_pos hname, hname, hplace, List.getElem?_concat_length]
  · have hmem : g.name ∈ known.map (·.name) := List.mem_map_of_mem hg
    have hother : (known.map (·.name)).idxOf g.name ≠ xs.length := by
      rw [← hplace]
      exact fun heq => hname ((List.idxOf_inj hmem).1 heq)
    rw [if_neg hname]
    rcases Nat.lt_or_gt_of_ne hother with hlt | hgt
    · rw [List.getElem?_append_left hlt]
    · rw [List.getElem?_eq_none (by omega), List.getElem?_eq_none (by simp; omega)]

/-- An array ends at once, or else starts with the item of the first field. -/
theorem readElements_first_eq_ok {fields : List (Field σ)}
    (h : readElements depth fields true s ts = .ok (s', rest)) :
    (ts = .closeBracket :: rest ∧ s = s') ∨
      (∀ ts₁, ts ≠ .closeBracket :: ts₁) ∧ ∃ f fields' r, fields = f :: fields' ∧
        f.read s depth ts = .ok r ∧ readElements depth fields' false r.1 r.2 = .ok (s', rest) := by
  unfold readElements at h
  split at h
  · cases h
    exact .inl ⟨rfl, rfl⟩
  · next hopen =>
    obtain ⟨r, hr, hrest⟩ := bind_eq_ok_iff.1 h
    exact .inr ⟨hopen, _, _, r, rfl, hr, hrest⟩
  · next hfirst => cases hfirst
  · cases h

/-- Behind an item the array ends, or else the item of the next field comes. -/
theorem readElements_eq_ok {fields : List (Field σ)}
    (h : readElements depth fields false s ts = .ok (s', rest)) :
    (ts = .closeBracket :: rest ∧ s = s') ∨
      ∃ f fields' ts₁ r, fields = f :: fields' ∧ ts = .comma :: ts₁ ∧ f.read s depth ts₁ = .ok r ∧
        readElements depth fields' false r.1 r.2 = .ok (s', rest) := by
  unfold readElements at h
  split at h
  · cases h
    exact .inl ⟨rfl, rfl⟩
  · next hfirst _ => cases hfirst
  · obtain ⟨r, hr, hrest⟩ := bind_eq_ok_iff.1 h
    exact .inr ⟨_, _, _, r, rfl, rfl, hr, hrest⟩
  · cases h

/-- What an item is read as and what it leaves stored. -/
theorem IsLenient.read_item (h : IsLenient known ofFields) {before fields : List (Field σ)}
    {f : Field σ} {xs : List Json} {r : σ × List Token} (hknown : known = before ++ f :: fields)
    (hlength : before.length = xs.length)
    (hread : f.read (ofFields (itemFields known xs)) depth ts = .ok r) :
    ∃ v, (∀ stack, readInside .skipped stack ts = continueWith .skipped v stack r.2) ∧
      r.1 = ofFields (itemFields known (xs ++ [v])) := by
  have hf : f ∈ known := by simp [hknown]
  rw [h.read hf] at hread
  obtain ⟨⟨v, rest⟩, hvalue, rfl⟩ := map_eq_ok_iff.1 hread
  exact ⟨v, readInside_of_value (Rules.sound_used depth) (readValue_eq_ok_iff.1 hvalue),
    h.append hknown hlength v⟩

theorem readElements_outline (h : IsLenient known ofFields) {before fields : List (Field σ)}
    (hknown : known = before ++ fields) {v : Json} {done : List Json}
    (hlength : before.length = done.length + 1)
    (hread : readElements depth fields false (ofFields (itemFields known (v :: done).reverse)) ts =
      .ok (s, rest)) :
    ∃ xs, continueWith .skipped v [.array done] ts = some (.array xs, rest) ∧
      xs.length ≤ known.length ∧ s = ofFields (itemFields known xs) := by
  induction fields generalizing before v done ts with
  | nil =>
    rcases readElements_eq_ok hread with ⟨rfl, rfl⟩ | ⟨f, fields, ts₁, r, hfields, -⟩
    · refine ⟨(v :: done).reverse, by rw [continueWith, continueWith], ?_, rfl⟩
      simp [hknown, hlength]
    · cases hfields
  | cons f fields ih =>
    rcases readElements_eq_ok hread with ⟨rfl, rfl⟩ | ⟨f, fields, ts₁, r, hfields, rfl, hf, hrest⟩
    · refine ⟨(v :: done).reverse, by rw [continueWith, continueWith], ?_, rfl⟩
      simp [hknown, hlength]
    · cases hfields
      obtain ⟨w, hw, hstored⟩ := h.read_item hknown (by simpa using hlength) hf
      rw [hstored, ← List.reverse_cons] at hrest
      have hknown' : known = (before ++ [f]) ++ fields := by simp [hknown]
      obtain ⟨xs, hxs⟩ := ih hknown' (by simp [hlength]) hrest
      rw [continueWith, hw]
      exact ⟨xs, hxs⟩

/-! ### Records -/

theorem readRecord_outline (h : IsLenient known ofFields) {expected : String}
    (hread : readRecord known expected (ofFields fun _ => none) depth ts = .ok (s, rest)) :
    ∃ v get, readInside .skipped [] ts = some (v, rest) ∧ IsRecord (known.map (·.name)) v get ∧
      s = ofFields get := by
  have hallows : Rules.skipped.allows 0 = true := rfl
  unfold readRecord at hread
  split at hread
  · split at hread
    · cases hread
      exact ⟨.object [], _, by rw [readInside, List.length_nil, if_pos hallows, continueWith],
        .object [], rfl⟩
    · have hread : readMembers known _ _ [] (ofFields fun name => Members.get? [] name) _ = _ :=
        hread
      obtain ⟨key, ts₁, ms, rfl, hrest, rfl⟩ := readMembers_outline h hread
      exact ⟨.object ms, _, hrest, .object ms, rfl⟩
  · rcases readElements_first_eq_ok hread with ⟨rfl, rfl⟩ | ⟨hopen, f, fields, r, hknown, hr, hrest⟩
    · exact ⟨.array [], _, by rw [readInside, List.length_nil, if_pos hallows, continueWith],
        .array (Nat.zero_le _), rfl⟩
    · have hknown₁ : known = [] ++ f :: fields := hknown
      have hknown₂ : known = [f] ++ fields := hknown
      have hempty : ofFields (fun _ => none) = ofFields (itemFields known []) := rfl
      rw [hempty] at hr
      obtain ⟨v, hv, hstored⟩ := h.read_item hknown₁ rfl hr
      have hone : [] ++ [v] = [v].reverse := rfl
      rw [hstored, hone] at hrest
      obtain ⟨xs, hxs, hlength, rfl⟩ := readElements_outline h hknown₂ rfl hrest
      refine ⟨.array xs, _, ?_, .array (by simpa using hlength), rfl⟩
      rw [readInside, List.length_nil, if_pos hallows, hv, hxs]
      exact hopen
  · cases hread
  · cases hread
  · unfold Reader.refuse at hread
    split at hread <;> cases hread
  · cases hread

/-- A record is made of the fields of the value that its text has. -/
theorem exists_outline_of_parseRecord (h : IsLenient known ofFields) {expected text : String}
    (hparse : parseRecord known expected (ofFields fun _ => none) text = .ok s) :
    ∃ v get, outline? text = some v ∧ IsRecord (known.map (·.name)) v get ∧ s = ofFields get := by
  obtain ⟨r, hread, hend⟩ := bind_eq_ok_iff.1 hparse
  obtain rfl := atEnd_eq_ok_iff.1 hend
  obtain ⟨v, get, hv, hrecord, hs⟩ := readRecord_outline h hread
  refine ⟨v, get, ?_, hrecord, hs⟩
  rw [outline?, hv]

end

end VpnDirectory.Json
