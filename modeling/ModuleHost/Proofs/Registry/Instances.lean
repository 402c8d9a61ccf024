import ModuleHost.Proofs.Registry.Creation

namespace ModuleHost.Registry

variable {r : Registry} {h : Handle} {i : Instance}

theorem Request.step_of_effect {q : Request} {found : Option Instance}
    (fair : ∀ change, q ≠ .use change) (left : (q.effect h found).2 = some i) :
    ∃ i' op, found = some i' ∧ i = (Instance.step i' op).2 := by
  cases found with
  | none => cases q <;> cases left
  | some i' =>
    cases q with
    | act op =>
      cases left
      exact ⟨i', op, rfl, rfl⟩
    | use change => exact absurd rfl (fair change)
    | contains =>
      cases left
      exact ⟨i, .fuelLeft, rfl, rfl⟩
    | destroy => cases left

theorem live_of_step {op : Op} (fair : ∀ change, op ≠ .use h change)
    (live : (r.step op).2.get? h = some i) :
    ((r.record op).1.issued = some h ∧ ∃ m pool fuel pool',
      Instance.create r.engine r.limits pool m fuel = .ok (i, pool')) ∨
    ∃ i' op', r.get? h = some i' ∧ i = (i'.step op').2 := by
  have unchanged (same : r.get? h = some i) : ∃ i' op', r.get? h = some i' ∧
      i = (Instance.step i' op').2 := ⟨i, .fuelLeft, same, rfl⟩
  -- A handle comes to a new instance only when it is issued, and a fair run does not swap it.
  rcases op_cases op with ⟨source, fuel, rfl⟩ | ⟨j, q, rfl⟩ | rfl | rfl
  · cases created : source.create r fuel with
    | error e =>
      rw [step_source_of_error created] at live
      exact .inr (unchanged live)
    | ok result =>
      obtain ⟨j, r'⟩ := result
      obtain ⟨m, new, pool, -, made, rfl, rfl⟩ := create_eq_ok.mp created
      rw [step_source_of_ok created, get?_enroll] at live
      split at live
      · rename_i here
        cases live
        refine .inl ⟨?_, m, r.pool, fuel, pool, made⟩
        simp only [record, step_source_of_ok created, here]
        cases source <;> rfl
      · exact .inr (unchanged live)
  · rw [get?_step_to] at live
    split at live
    · rename_i here
      subst here
      have fairly (change : Instance → Instance) : q ≠ .use change :=
        fun same => fair change (congrArg (Request.to h) same)
      exact .inr (Request.step_of_effect fairly live)
    · exact .inr (unchanged live)
  · exact .inr (unchanged live)
  · exact .inr (unchanged live)

theorem live_after {P : Instance → Prop} {ops : List Op} (start : ∀ i, r.get? h = some i → P i)
    (new : h ∈ issuedBy (r.trace ops) → ∀ m pool fuel i pool',
      Instance.create r.engine r.limits pool m fuel = .ok (i, pool') → P i)
    (kept : ∀ i op, P i → P (Instance.step i op).2) (fair : ∀ change, Op.use h change ∉ ops) :
    ∀ i, (r.after ops).get? h = some i → P i := by
  induction ops generalizing r with
  | nil => exact start
  | cons op ops ih =>
    have same := sameSettings_step r op
    have log : r.trace (op :: ops) = (r.record op).1 :: (r.step op).2.trace ops := rfl
    rw [log] at new
    refine ih (r := (r.step op).2) ?_ ?_ fun change later => fair change (.tail op later)
    · intro i live
      have fairly (change : Instance → Instance) : op ≠ .use h change := by
        rintro rfl
        exact fair change (.head ops)
      rcases live_of_step fairly live with
        ⟨issues, m, pool, fuel, pool', made⟩ | ⟨i', op', found, rfl⟩
      · exact new (List.mem_filterMap.mpr ⟨_, .head _, issues⟩) m pool fuel i pool' made
      · exact kept i' op' (start i' found)
    · intro issued m pool fuel i pool' made
      rw [same.engine, same.limits] at made
      obtain ⟨e, member, issues⟩ := List.mem_filterMap.mp issued
      exact new (List.mem_filterMap.mpr ⟨e, .tail _ member, issues⟩) m pool fuel i pool' made

end ModuleHost.Registry
