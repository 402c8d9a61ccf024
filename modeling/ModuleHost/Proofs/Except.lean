import Mathlib.Data.List.Forall2

namespace ModuleHost

variable {ε ε' α β : Type} {x : Except ε α}

theorem bind_eq_ok {f : α → Except ε β} {b : β} :
    (x >>= f) = .ok b ↔ ∃ a, x = .ok a ∧ f a = .ok b := by
  cases x <;> simp [bind, Except.bind]

theorem bind_eq_error {f : α → Except ε β} {e : ε} :
    (x >>= f) = .error e ↔ x = .error e ∨ ∃ a, x = .ok a ∧ f a = .error e := by
  cases x <;> simp [bind, Except.bind]

theorem map_eq_ok {f : α → β} {b : β} : x.map f = .ok b ↔ ∃ a, x = .ok a ∧ f a = b := by
  cases x <;> simp [Except.map]

theorem map_eq_error {f : α → β} {e : ε} : x.map f = .error e ↔ x = .error e := by
  cases x <;> simp [Except.map]

@[simp] theorem mapError_ok {f : ε → ε'} {a : α} : (Except.ok a).mapError f = .ok a :=
  rfl

@[simp] theorem mapError_error {f : ε → ε'} {e : ε} :
    (Except.error e : Except ε α).mapError f = .error (f e) :=
  rfl

theorem mapError_eq_ok {f : ε → ε'} {a : α} : x.mapError f = .ok a ↔ x = .ok a := by
  cases x <;> simp

theorem mapError_eq_error {f : ε → ε'} {e : ε'} :
    x.mapError f = .error e ↔ ∃ e', x = .error e' ∧ f e' = e := by
  cases x <;> simp

theorem forM_eq_ok {xs : List α} {f : α → Except ε Unit} :
    xs.forM f = .ok () ↔ ∀ x ∈ xs, f x = .ok () := by
  induction xs with
  | nil => simp [List.forM, pure, Except.pure]
  | cons x xs ih =>
    show (f x >>= fun _ => xs.forM f) = _ ↔ _
    rw [bind_eq_ok, List.forall_mem_cons, ih]
    exact ⟨fun ⟨_, here, there⟩ => ⟨here, there⟩, fun ⟨here, there⟩ => ⟨_, here, there⟩⟩

theorem forM_array_eq_ok {xs : Array α} {f : α → Except ε Unit} :
    xs.forM f = .ok () ↔ ∀ x ∈ xs, f x = .ok () := by
  obtain ⟨xs⟩ := xs
  rw [List.forM_toArray' xs f rfl, forM_eq_ok]
  simp only [List.mem_toArray]

theorem forall₂_of_mapM {xs : List α} {ys : List β} {f : α → Except ε β}
    (maps : xs.mapM f = .ok ys) : List.Forall₂ (fun x y => f x = .ok y) xs ys := by
  induction xs generalizing ys with
  | nil =>
    cases maps
    exact .nil
  | cons x xs ih =>
    simp only [List.mapM_cons, bind_eq_ok] at maps
    obtain ⟨y, here, ys, there, same⟩ := maps
    cases same
    exact .cons here (ih there)

theorem exists_of_mapM_eq_error {xs : List α} {f : α → Except ε β} {e : ε}
    (fails : xs.mapM f = .error e) : ∃ x ∈ xs, f x = .error e := by
  induction xs with
  | nil => cases fails
  | cons x xs ih =>
    simp only [List.mapM_cons, bind_eq_error] at fails
    rcases fails with here | ⟨y, -, later | ⟨ys, -, absurd⟩⟩
    · exact ⟨x, .head xs, here⟩
    · obtain ⟨x', member, failed⟩ := ih later
      exact ⟨x', .tail x member, failed⟩
    · cases absurd

theorem getElem?_of_mapM {xs : List α} {ys : List β} {f : α → Except ε β} {k : Nat} {y : β}
    (maps : xs.mapM f = .ok ys) (found : ys[k]? = some y) :
    ∃ x, xs[k]? = some x ∧ f x = .ok y := by
  induction xs generalizing ys k with
  | nil =>
    cases maps
    cases found
  | cons x xs ih =>
    simp only [List.mapM_cons, bind_eq_ok] at maps
    obtain ⟨z, here, zs, there, same⟩ := maps
    cases same
    cases k with
    | zero =>
      cases found
      exact ⟨x, rfl, here⟩
    | succ k => exact ih there found

theorem foldlM_eq_error_iff {xs : List α} {f : β → α → Except ε β} {s : β} {e : ε} :
    xs.foldlM f s = .error e ↔ ∃ before x after s', xs = before ++ x :: after ∧
      before.foldlM f s = .ok s' ∧ f s' x = .error e := by
  constructor
  · intro fails
    induction xs generalizing s with
    | nil => cases fails
    | cons x xs ih =>
      rw [List.foldlM_cons, bind_eq_error] at fails
      rcases fails with here | ⟨s₁, step, later⟩
      · exact ⟨[], x, xs, s, rfl, rfl, here⟩
      · obtain ⟨before, y, after, s', rfl, steps, there⟩ := ih later
        refine ⟨x :: before, y, after, s', rfl, ?_, there⟩
        rw [List.foldlM_cons]
        exact bind_eq_ok.mpr ⟨s₁, step, steps⟩
  · rintro ⟨before, x, after, s', rfl, steps, here⟩
    rw [List.foldlM_append]
    exact bind_eq_error.mpr (.inr ⟨s', steps, bind_eq_error.mpr (.inl here)⟩)

theorem foldlM_eq_error {xs : List α} {f : β → α → Except ε β} (s : β)
    (fails : ∃ x ∈ xs, ∀ s, ∃ e, f s x = .error e) : ∃ e, xs.foldlM f s = .error e := by
  induction xs generalizing s with
  | nil =>
    obtain ⟨x, member, -⟩ := fails
    cases member
  | cons x xs ih =>
    rw [List.foldlM_cons]
    cases here : f s x with
    | error e => exact ⟨e, rfl⟩
    | ok s' =>
      obtain ⟨y, member, fails⟩ := fails
      rcases List.mem_cons.mp member with rfl | later
      · obtain ⟨e, failed⟩ := fails s
        cases here.symm.trans failed
      · exact ih s' ⟨y, later, fails⟩

end ModuleHost
