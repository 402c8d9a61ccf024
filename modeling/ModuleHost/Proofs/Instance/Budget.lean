import ModuleHost.Proofs.Instance.Fuel
import ModuleHost.Proofs.Registry.Requests

namespace ModuleHost

namespace Instance

open Registry (Answer)

variable {i : Instance} {op : Op} {ops : List Op} {budget : Nat}

theorem group_of_signature {interface : Option String} {name : String} {e : Failure}
    (fails : i.signature interface name = .error e) : e.group = some .dispatch := by
  have refusal : i.Refusal (qualify interface name) [] e :=
    refusal_of_resolve (map_eq_error.mp fails)
  exact refusal.group

def Rests (i : Instance) (op : Op) : Prop :=
  ∀ interface name args, op = .call interface name args →
    ∃ e, (i.call interface name args).1 = .error e ∧ e.group = some .dispatch

theorem group_of_rests {e : Failure} (rests : i.Rests op) (fails : (i.step op).1 = .failure e) :
    e.group ≠ some .trap := by
  rcases error_of_step fails with
    ⟨interface, name, args, rfl, called⟩ | ⟨interface, name, fails⟩ | ⟨offset, length, fails⟩
  · obtain ⟨e', refused, group⟩ := rests interface name args rfl
    cases called.symm.trans refused
    rw [group]
    nofun
  · rw [group_of_signature fails]
    nofun
  · rw [group_of_memoryWith fails]
    nofun

theorem step_of_rests (rests : i.Rests op) :
    ∃ store, (i.step op).2 = { i with store } ∧ store.fuelSpent = i.store.fuelSpent := by
  cases op with
  | call interface name args =>
    obtain ⟨e, fails, group⟩ := rests interface name args rfl
    rcases refusal_or_trap_of_call fails with ⟨-, after⟩ | trap
    · exact ⟨i.store, after, rfl⟩
    · cases group.symm.trans trap
  | writeBytes offset bytes =>
    cases writes : i.writeBytes offset bytes with
    | ok i' =>
      obtain ⟨m, -, rfl⟩ := map_eq_ok.mp writes
      simp only [step, writes]
      exact ⟨_, rfl, rfl⟩
    | error e =>
      simp only [step, writes]
      exact ⟨i.store, rfl, rfl⟩
  | signature | readBytes | fuelLeft | fingerprint => exact ⟨i.store, rfl, rfl⟩

theorem step_spends (i : Instance) (op : Op) :
    ∃ store, (i.step op).2 = { i with store } ∧ i.store.fuelSpent ≤ store.fuelSpent ∧
      ((i.step op).1 = .failure .fuelExhausted →
        i.program.isExhausted store.fuelSpent = true) := by
  by_cases calls : ∃ interface name args, op = .call interface name args
  · obtain ⟨interface, name, args, rfl⟩ := calls
    obtain ⟨store, after, spends, empty⟩ := i.call_spends interface name args
    refine ⟨store, after, spends, fun fails => empty ?_⟩
    simp only [step] at fails
    generalize (i.call interface name args).1 = answer at fails
    cases answer <;> cases fails
    rfl
  · have rests : i.Rests op :=
      fun interface name args same => absurd ⟨interface, name, args, same⟩ calls
    obtain ⟨store, after, kept⟩ := step_of_rests rests
    exact ⟨store, after, kept.ge, fun fails => absurd rfl (group_of_rests rests fails)⟩

theorem after_append (ops ops' : List Op) : i.after (ops ++ ops') = (i.after ops).after ops' :=
  List.foldl_append

theorem run_spends (i : Instance) (ops : List Op) :
    ∃ store, i.after ops = { i with store } ∧ i.store.fuelSpent ≤ store.fuelSpent ∧
      (.failure .fuelExhausted ∈ i.trace ops → i.program.isExhausted store.fuelSpent = true) := by
  refine Run.invariant (P := fun (log : List Answer) j => ∃ store, j = { i with store } ∧
    i.store.fuelSpent ≤ store.fuelSpent ∧
    (.failure .fuelExhausted ∈ log → i.program.isExhausted store.fuelSpent = true)) ?_ ?_ ops
  · exact ⟨i.store, rfl, le_refl _, nofun⟩
  · rintro log j op ⟨store, rfl, spends, empty⟩
    obtain ⟨store', after, more, emptied⟩ := step_spends { i with store } op
    refine ⟨store', after, spends.trans more, fun reports => ?_⟩
    -- What is spent only grows, so a budget that was used up stays so.
    rcases List.mem_append.mp reports with earlier | now
    · exact Wasm.Program.isExhausted_mono (empty earlier) more
    · exact emptied (List.mem_singleton.mp now).symm

/-- What a budget is for an instance, over all that is done with it. -/
structure Metered (budget : Nat) (i : Instance) : Prop where
  starts : ∃ s, s.fuelSpent = 0 ∧ i.program.budget = some budget ∧
    runStart i.program s = .ok i.store
  left : ∀ ops, ∃ n ≤ budget, (i.after ops).fuelLeft = some n
  falls : ∀ ops ops' n n', (i.after ops).fuelLeft = some n →
    (i.after (ops ++ ops')).fuelLeft = some n' → n' ≤ n
  rests : ∀ ops op, (i.after ops).Rests op →
    (i.after (ops ++ [op])).fuelLeft = (i.after ops).fuelLeft
  ends : ∀ ops, .failure .fuelExhausted ∈ i.trace ops ∨ (i.after ops).fuelLeft = some 0 →
    ∀ ops' interface name args f func s, (i.after (ops ++ ops')).Defines f func →
      (i.after (ops ++ ops')).resolve (qualify interface name) = .ok (f, s) →
      args.map Value.kind = s.params →
      ∃ told, (i.after (ops ++ ops')).call interface name args =
        (.error .fuelExhausted, { i.after (ops ++ ops') with
          store := (i.after (ops ++ ops')).store.withFuel told })

structure Unmetered (i : Instance) : Prop where
  left : ∀ ops, (i.after ops).fuelLeft = none
  never : ∀ ops, .failure .fuelExhausted ∉ i.trace ops

theorem metered_of_budget {s : Wasm.Store} (fresh : s.fuelSpent = 0)
    (budgeted : i.program.budget = some budget) (starts : runStart i.program s = .ok i.store)
    (nests : 0 < i.program.maxDepth) : i.Metered budget := by
  have left (store : Wasm.Store) :
      fuelLeft { i with store } = some (budget - store.fuelSpent) := by
    simp [fuelLeft, Wasm.Program.fuelLeft, budgeted]
  refine ⟨⟨s, fresh, budgeted, starts⟩, ?_, ?_, ?_, ?_⟩
  · intro ops
    obtain ⟨store, after, -⟩ := i.run_spends ops
    exact ⟨_, Nat.sub_le .., after ▸ left store⟩
  · intro ops ops' n n' before since
    obtain ⟨store, after, -⟩ := i.run_spends ops
    rw [after_append, after] at since
    obtain ⟨store', after', spends, -⟩ := run_spends { i with store } ops'
    rw [after, left] at before
    rw [after', left] at since
    cases before
    cases since
    exact Nat.sub_le_sub_left spends budget
  · intro ops op rests
    obtain ⟨store, after, -⟩ := i.run_spends ops
    rw [after] at rests
    obtain ⟨store', after', kept⟩ := step_of_rests rests
    have next : i.after (ops ++ [op]) = { i with store := store' } := by
      rw [after_append, after]
      exact after'
    rw [next, after, left, left, kept]
  -- None was left by the time of `ops`, and what has been spent since does not come back.
  · intro ops ended ops' interface name args f func s defines resolves accepts
    obtain ⟨store, after, -, empty⟩ := i.run_spends ops
    obtain ⟨store', after', spends, -⟩ := run_spends { i with store } ops'
    have empty : i.program.isExhausted store.fuelSpent = true := by
      rcases ended with reports | dry
      · exact empty reports
      · rw [after, left] at dry
        rw [Wasm.Program.isExhausted_iff budgeted]
        exact Nat.le_of_sub_eq_zero (Option.some.inj dry)
    have state : i.after (ops ++ ops') = { i with store := store' } := by
      rw [after_append, after, after']
    rw [state] at defines resolves ⊢
    exact ⟨_, call_of_exhausted defines nests (Wasm.Program.isExhausted_mono empty spends)
      resolves accepts⟩

theorem unmetered_of_budget (unlimited : i.program.budget = none) : i.Unmetered := by
  refine ⟨fun ops => ?_, fun ops reports => ?_⟩
  · obtain ⟨store, after, -⟩ := i.run_spends ops
    rw [after]
    simp [fuelLeft, Wasm.Program.fuelLeft, unlimited]
  · obtain ⟨store, -, -, empty⟩ := i.run_spends ops
    have dry := empty reports
    rw [Wasm.Program.not_isExhausted unlimited] at dry
    cases dry

end Instance

end ModuleHost
