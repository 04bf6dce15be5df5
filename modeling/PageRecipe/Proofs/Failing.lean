import Mathlib.Data.List.Forall2

/-!
# Steps that may fail

A step that may fail is opened by what it gives when it does not. There is one lemma for each
way of going on behind a step, for steps without effects and for those over a state of the files
that answers at once.
-/

namespace PageRecipe

section Pure

variable {ε δ α β : Type}

theorem bind_eq_ok_iff {x : Except ε α} {f : α → Except ε β} {b : β} :
    (x >>= f) = .ok b ↔ ∃ a, x = .ok a ∧ f a = .ok b := by
  cases x <;> simp [bind, Except.bind]

theorem map_eq_ok_iff {x : Except ε α} {f : α → β} {b : β} :
    x.map f = .ok b ↔ ∃ a, x = .ok a ∧ f a = b := by
  cases x <;> simp [Except.map]

theorem mapError_eq_ok_iff {x : Except ε α} {f : ε → δ} {a : α} :
    x.mapError f = .ok a ↔ x = .ok a := by
  cases x <;> simp [Except.mapError]

theorem toOption_eq_some_iff {x : Except ε α} {a : α} : x.toOption = some a ↔ x = .ok a := by
  cases x <;> simp [Except.toOption]

theorem isSome_toOption_iff {x : Except ε α} : x.toOption.isSome = true ↔ ∃ a, x = .ok a := by
  cases x <;> simp [Except.toOption]

end Pure

section Run

variable {ε α β : Type}

theorem run_bind_ok {x : ExceptT ε Id α} {a : α} (h : x.run = .ok a) (f : α → ExceptT ε Id β) :
    (x >>= f).run = (f a).run := by
  rw [ExceptT.run_bind, h]
  rfl

theorem run_bind_error {x : ExceptT ε Id α} {e : ε} (h : x.run = .error e)
    (f : α → ExceptT ε Id β) : (x >>= f).run = .error e := by
  rw [ExceptT.run_bind, h]
  rfl

theorem run_bind_eq_ok_iff {x : ExceptT ε Id α} {f : α → ExceptT ε Id β} {b : β} :
    (x >>= f).run = .ok b ↔ ∃ a, x.run = .ok a ∧ (f a).run = .ok b := by
  constructor
  · intro hrun
    cases h : x.run with
    | error e => cases (run_bind_error h f).symm.trans hrun
    | ok a => exact ⟨a, rfl, (run_bind_ok h f).symm.trans hrun⟩
  · rintro ⟨a, h, hf⟩
    exact (run_bind_ok h f).trans hf

/-- A traversal goes on while its steps give something. -/
theorem run_mapM_ok {f : α → ExceptT ε Id β} {xs : List α} {ys : List β}
    (h : List.Forall₂ (fun x y => (f x).run = .ok y) xs ys) : (xs.mapM f).run = .ok ys := by
  induction h with
  | nil => rfl
  | cons hx _ ih =>
    rw [List.mapM_cons, run_bind_ok hx, run_bind_ok ih]
    rfl

/-- A traversal in which some step fails ends with the failure of a step. -/
theorem exists_run_mapM_error {f : α → ExceptT ε Id β} {xs : List α}
    (h : ∃ x ∈ xs, ∃ e, (f x).run = .error e) :
    ∃ x ∈ xs, ∃ e, (f x).run = .error e ∧ (xs.mapM f).run = .error e := by
  induction xs with
  | nil =>
    obtain ⟨x, hx, -⟩ := h
    cases hx
  | cons x xs ih =>
    cases hx : (f x).run with
    | error e =>
      refine ⟨x, List.mem_cons_self, e, hx, ?_⟩
      rw [List.mapM_cons, run_bind_error hx]
    | ok y =>
      have hrest : ∃ x ∈ xs, ∃ e, (f x).run = .error e := by
        obtain ⟨z, hz, e, he⟩ := h
        rcases List.mem_cons.mp hz with rfl | hz
        · cases hx.symm.trans he
        · exact ⟨z, hz, e, he⟩
      obtain ⟨z, hz, e, he, hmap⟩ := ih hrest
      refine ⟨z, List.mem_cons_of_mem x hz, e, he, ?_⟩
      rw [List.mapM_cons, run_bind_ok hx, run_bind_error hmap]

/-- A loop that keeps nothing goes on while its steps give something. -/
theorem run_forIn_ok {f : α → ExceptT ε Id (ForInStep PUnit)} {xs : List α}
    (h : ∀ x ∈ xs, (f x).run = .ok (.yield ⟨⟩)) : (forIn xs ⟨⟩ fun x _ => f x).run = .ok ⟨⟩ := by
  induction xs with
  | nil => rfl
  | cons x xs ih =>
    rw [List.forIn_cons, run_bind_ok (h x List.mem_cons_self)]
    exact ih fun y hy => h y (List.mem_cons_of_mem x hy)

/-- A loop in which some step fails ends with the failure of a step. -/
theorem exists_run_forIn_error {f : α → ExceptT ε Id (ForInStep PUnit)} {g : α → ε} {xs : List α}
    (hsteps : ∀ x ∈ xs, (f x).run = .ok (.yield ⟨⟩) ∨ (f x).run = .error (g x))
    (h : ∃ x ∈ xs, (f x).run = .error (g x)) :
    ∃ x ∈ xs, (forIn xs ⟨⟩ fun x _ => f x).run = .error (g x) := by
  induction xs with
  | nil =>
    obtain ⟨x, hx, -⟩ := h
    cases hx
  | cons x xs ih =>
    rcases hsteps x List.mem_cons_self with hx | hx
    · have hrest : ∃ x ∈ xs, (f x).run = .error (g x) := by
        obtain ⟨z, hz, he⟩ := h
        rcases List.mem_cons.mp hz with rfl | hz
        · cases hx.symm.trans he
        · exact ⟨z, hz, he⟩
      obtain ⟨z, hz, hloop⟩ := ih (fun y hy => hsteps y (List.mem_cons_of_mem x hy)) hrest
      refine ⟨z, List.mem_cons_of_mem x hz, ?_⟩
      rw [List.forIn_cons, run_bind_ok hx]
      exact hloop
    · refine ⟨x, List.mem_cons_self, ?_⟩
      rw [List.forIn_cons, run_bind_error hx]

end Run

end PageRecipe
