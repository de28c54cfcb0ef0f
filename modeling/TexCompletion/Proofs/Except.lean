import Mathlib.Data.List.Forall2

/-!
# Computations that may fail

What a computation of several parts comes to, in terms of its parts: one part behind another, the same
work on each element of a list, and work that is handed on along a list.
-/

namespace TexCompletion

variable {ε α β : Type}

/-- Binding succeeds exactly if both parts do. -/
theorem bind_eq_ok_iff {x : Except ε α} {f : α → Except ε β} {b : β} :
    x >>= f = .ok b ↔ ∃ a, x = .ok a ∧ f a = .ok b := by
  cases x with
  | error e => exact ⟨nofun, fun ⟨_, h, _⟩ => nomatch h⟩
  | ok a => exact ⟨fun h => ⟨a, rfl, h⟩, fun ⟨_, ha, h⟩ => Except.ok.inj ha ▸ h⟩

/-- Binding fails if the first part does, or else if the second does. -/
theorem bind_eq_error_iff {x : Except ε α} {f : α → Except ε β} {e : ε} :
    x >>= f = .error e ↔ x = .error e ∨ ∃ a, x = .ok a ∧ f a = .error e := by
  cases x with
  | error e' => simp [bind, Except.bind]
  | ok a => simp [bind, Except.bind]

theorem pure_ne_error {a : α} {e : ε} : (pure a : Except ε α) ≠ .error e := nofun

theorem throw_eq_error_iff {e e' : ε} : (throw e' : Except ε α) = .error e ↔ e = e' :=
  ⟨fun h => (Except.error.inj h).symm, fun h => h ▸ rfl⟩

/-- Work on the elements of a list succeeds if it does on each of them. -/
theorem mapM_eq_ok_iff {f : α → Except ε β} {xs : List α} {ys : List β} :
    xs.mapM f = .ok ys ↔ List.Forall₂ (fun x y => f x = .ok y) xs ys := by
  induction xs generalizing ys with
  | nil => cases ys <;> simp [pure, Except.pure]
  | cons x xs ih =>
    simp only [List.mapM_cons, bind_eq_ok_iff, List.forall₂_cons_left_iff, ih, pure, Except.pure,
      Except.ok.injEq]
    exact ⟨fun ⟨y, hy, ys', hys, h⟩ => ⟨y, ys', hy, hys, h.symm⟩,
      fun ⟨y, ys', hy, hys, h⟩ => ⟨y, hy, ys', hys, h.symm⟩⟩

/-- Work that succeeds gives what it gives on each element. -/
theorem filterMap_of_mapM_eq_ok {f : α → Except ε β} {xs : List α} {ys : List β}
    (h : xs.mapM f = .ok ys) : xs.filterMap (fun x => (f x).toOption) = ys := by
  rw [mapM_eq_ok_iff] at h
  induction h with
  | nil => rfl
  | cons hfirst _ ih =>
    rw [List.filterMap_cons, hfirst]
    exact congrArg _ ih

/-- The same of work that does not tell why it fails. -/
theorem mapM_eq_some_iff {f : α → Option β} {xs : List α} {ys : List β} :
    xs.mapM f = some ys ↔ List.Forall₂ (fun x y => f x = some y) xs ys := by
  induction xs generalizing ys with
  | nil => cases ys <;> simp
  | cons x xs ih =>
    simp only [List.mapM_cons, Option.bind_eq_bind, Option.bind_eq_some_iff, Option.pure_def,
      Option.some.injEq, List.forall₂_cons_left_iff, ih]
    exact ⟨fun ⟨y, hy, ys', hys, h⟩ => ⟨y, ys', hy, hys, h.symm⟩,
      fun ⟨y, ys', hy, hys, h⟩ => ⟨y, hy, ys', hys, h.symm⟩⟩

/-- Each element of a list has a partner in some list exactly if it has one at all. -/
theorem exists_forall₂_iff {R : α → β → Prop} {xs : List α} :
    (∃ ys, List.Forall₂ R xs ys) ↔ ∀ x ∈ xs, ∃ y, R x y := by
  induction xs with
  | nil => simp
  | cons x xs ih =>
    rw [List.forall_mem_cons, ← ih]
    constructor
    · rintro ⟨_, h⟩
      cases h with | cons hx hxs =>
      exact ⟨⟨_, hx⟩, ⟨_, hxs⟩⟩
    · rintro ⟨⟨y, hx⟩, ⟨ys, hxs⟩⟩
      exact ⟨y :: ys, .cons hx hxs⟩

theorem exists_mapM_eq_ok_iff {f : α → Except ε β} {xs : List α} :
    (∃ ys, xs.mapM f = .ok ys) ↔ ∀ x ∈ xs, ∃ y, f x = .ok y := by
  simp only [mapM_eq_ok_iff, exists_forall₂_iff]

theorem exists_mapM_eq_some_iff {f : α → Option β} {xs : List α} :
    (∃ ys, xs.mapM f = some ys) ↔ ∀ x ∈ xs, ∃ y, f x = some y := by
  simp only [mapM_eq_some_iff, exists_forall₂_iff]

/-- A fold succeeds exactly if it has succeeded before the last step and the last step does. -/
theorem foldlM_concat_eq_ok_iff {f : β → α → Except ε β} {as : List α} {a : α} {b b' : β} :
    (as ++ [a]).foldlM f b = .ok b' ↔ ∃ before, as.foldlM f b = .ok before ∧ f before a = .ok b' := by
  rw [List.foldlM_append, bind_eq_ok_iff]
  simp only [List.foldlM_cons, List.foldlM_nil, bind_pure]

end TexCompletion
