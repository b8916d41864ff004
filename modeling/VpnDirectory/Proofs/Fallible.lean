/-!
# Computations that may fail

When a step after a step succeeds, and when one whose fault is put into another form does. Of a list
of steps, only what each of them gives counts.
-/

namespace VpnDirectory

variable {ε ε' α β : Type} {x : Except ε α} {f : α → Except ε β} {g : ε → ε'} {a : α} {b : β}

@[simp] theorem ok_bind (a : α) (f : α → Except ε β) : (.ok a : Except ε α) >>= f = f a := rfl

@[simp] theorem error_bind (e : ε) (f : α → Except ε β) :
    (.error e : Except ε α) >>= f = .error e := rfl

theorem bind_eq_ok_iff : x >>= f = .ok b ↔ ∃ a, x = .ok a ∧ f a = .ok b := by
  cases x <;> simp

theorem bind_eq_error_iff {e : ε} :
    x >>= f = .error e ↔ x = .error e ∨ ∃ a, x = .ok a ∧ f a = .error e := by
  cases x <;> simp

theorem exists_bind_eq_ok_iff : (∃ b, x >>= f = .ok b) ↔ ∃ a, x = .ok a ∧ ∃ b, f a = .ok b := by
  cases x <;> simp

theorem map_eq_ok_iff {f : α → β} : x.map f = .ok b ↔ ∃ a, x = .ok a ∧ f a = b := by
  cases x <;> simp [Except.map]

theorem mapError_eq_ok_iff : x.mapError g = .ok a ↔ x = .ok a := by
  cases x with
  | ok b =>
    show (.ok b : Except ε' α) = .ok a ↔ _
    simp only [Except.ok.injEq]
  | error e => exact iff_of_false nofun nofun

theorem mapError_eq_error_iff {e' : ε'} :
    x.mapError g = .error e' ↔ ∃ e, x = .error e ∧ g e = e' := by
  cases x with
  | ok b => exact iff_of_false nofun nofun
  | error e =>
    show (.error (g e) : Except ε' α) = .error e' ↔ _
    simp only [Except.error.injEq, exists_eq_left']

theorem toOption_eq_some_iff : x.toOption = some a ↔ x = .ok a := by
  cases x <;> simp [Except.toOption]

theorem filterMap_eq_of_map_eq {γ : Type} {f : α → Option γ} {g : β → Option γ} {xs : List α}
    {ys : List β} (h : xs.map f = ys.map g) : xs.filterMap f = ys.filterMap g := by
  calc xs.filterMap f = (xs.map f).filterMap id := by rw [List.filterMap_map]; rfl
    _ = (ys.map g).filterMap id := by rw [h]
    _ = ys.filterMap g := by rw [List.filterMap_map]; rfl

theorem filterMap_of_map_eq {f : α → Option β} {xs : List α} {ys : List β}
    (h : xs.map f = ys.map some) : xs.filterMap f = ys :=
  (filterMap_eq_of_map_eq h).trans List.filterMap_some

theorem mapM_eq_of_map_eq {f : α → Except ε β} {xs ys : List α} (h : xs.map f = ys.map f) :
    xs.mapM f = ys.mapM f := by
  calc xs.mapM f = (xs.map f).mapM id := by rw [List.mapM_map]; rfl
    _ = (ys.map f).mapM id := by rw [h]
    _ = ys.mapM f := by rw [List.mapM_map]; rfl

end VpnDirectory
