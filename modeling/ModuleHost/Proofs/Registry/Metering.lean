import ModuleHost.Proofs.Instance.Metering
import ModuleHost.Proofs.Registry.Fuel

namespace ModuleHost

theorem Instance.tighter_of_le {p : Wasm.Program} {budget : Nat}
    (enough : ∀ n, p.budget = some n → budget ≤ n) : Tighter (some budget) 0 p := by
  intro n empty
  cases budgeted : p.budget with
  | none =>
    rw [Wasm.Program.not_isExhausted budgeted] at empty
    cases empty
  | some larger =>
    rw [Wasm.Program.isExhausted_iff budgeted] at empty
    exact decide_eq_true ((enough larger budgeted).trans empty)

namespace Registry

variable {r₁ r₂ r₁' r₂' : Registry} {h₁ h₂ : Handle} {fuel₁ fuel₂ : Option UInt64}

/-- After the same operations on two instances, nothing but fuel tells them apart, and they have
used the same amount of it as long as the first one has any left. -/
structure InStep (r₁ r₂ : Registry) (h₁ h₂ : Handle) (budget₁ : Nat) (budget₂ : Option Nat)
    (ops : List Instance.Op) : Prop where
  answers : (r₁.trace (opsOn h₁ ops)).map (·.2.withoutFuel) =
    (r₂.trace (opsOn h₂ ops)).map (·.2.withoutFuel)
  stores : ∃ i₁ i₂, (r₁.after (opsOn h₁ ops)).get? h₁ = some i₁ ∧
    (r₂.after (opsOn h₂ ops)).get? h₂ = some i₂ ∧ i₁.store = i₂.store
  used : ∀ n, budget₂ = some n → ∃ left₁ left₂,
    (r₁.after (opsOn h₁ ops)).fuelLeft h₁ = .ok (some left₁) ∧
    (r₂.after (opsOn h₂ ops)).fuelLeft h₂ = .ok (some left₂) ∧
    (0 < left₁ → budget₁ - left₁ = n - left₂)

theorem fuelLeft_of_live {r : Registry} {h : Handle} {i : Instance} (live : r.get? h = some i) :
    r.fuelLeft h = .ok i.fuelLeft := by
  rw [fuelLeft, get_eq_ok.mpr live]
  rfl

theorem inStep_of_late {i : Instance} {budget : Nat}
    (live₁ : r₁.get? h₁ = some (i.late (some budget) 0)) (live₂ : r₂.get? h₂ = some i)
    (enough : ∀ n, i.program.budget = some n → budget ≤ n) {ops : List Instance.Op}
    (fine : .failure .fuelExhausted ∉ (r₁.trace (opsOn h₁ ops)).map Prod.snd) :
    r₁.InStep r₂ h₁ h₂ budget i.program.budget ops := by
  obtain ⟨answers₁, state₁⟩ := run_opsOn live₁ ops
  obtain ⟨answers₂, state₂⟩ := run_opsOn live₂ ops
  rw [answers₁] at fine
  obtain ⟨answers, after⟩ := Instance.trace_late (Instance.tighter_of_le enough) ops fine
  obtain ⟨store, after₂, -⟩ := i.run_spends ops
  rw [after₂] at after state₂
  rw [after] at state₁
  refine ⟨?_, ⟨_, _, state₁, state₂, rfl⟩, ?_⟩
  · rw [← answers₁, ← answers₂, List.map_map, List.map_map] at answers
    exact answers
  · intro n budgeted
    have left₁ : Instance.fuelLeft (Instance.late (.some budget) 0 { i with store }) =
        .some (budget - store.fuelSpent) := rfl
    have left₂ : Instance.fuelLeft { i with store } = .some (n - store.fuelSpent) := by
      simp [Instance.fuelLeft, Wasm.Program.fuelLeft, budgeted]
    refine ⟨_, _, (fuelLeft_of_live state₁).trans (congrArg _ left₁),
      (fuelLeft_of_live state₂).trans (congrArg _ left₂), ?_⟩
    have le : budget ≤ n := enough n budgeted
    omega

/-- Two registries that differ at most in the fuel that instances get, of which the first one meters
it. -/
structure Alike (r₁ r₂ : Registry) : Prop where
  metered : r₁.engine.settings.metered = true
  engine : r₂.engine = r₁.engine.metering r₂.engine.settings.metered
  limits : r₂.limits = { r₁.limits with fuel := r₂.limits.fuel }
  pool : r₂.pool = r₁.pool

def budget (r : Registry) (fuel : Option UInt64) : Option Nat :=
  if r.engine.settings.metered then some (granted r.limits fuel) else none

theorem load_metering (engine : Engine) (metered : Bool) (source : Source) :
    source.load (engine.metering metered) = source.load engine := by
  cases source <;> rfl

theorem create_alike (alike : r₁.Alike r₂)
    (enough : ∀ n, r₂.budget fuel₂ = some n → granted r₁.limits fuel₁ ≤ n) (m : GuestModule) :
    (∃ e, Instance.create r₁.engine r₁.limits r₁.pool m fuel₁ = .error e ∧ e.SaysExhausted) ∨
      Instance.create r₁.engine r₁.limits r₁.pool m fuel₁ =
        (Instance.create r₂.engine r₂.limits r₂.pool m fuel₂).map fun (i, pool) =>
          (i.late (some (granted r₁.limits fuel₁)) 0, pool) := by
  have budget₁ : Instance.budget r₁.engine.settings r₁.limits fuel₁ =
      some (granted r₁.limits fuel₁) := by
    rw [budget_eq, alike.metered]
    rfl
  have tighter (p : Wasm.Program)
      (budgeted : p.budget = Instance.budget r₂.engine.settings r₂.limits fuel₂) :
      Instance.Tighter (Instance.budget r₁.engine.settings r₁.limits fuel₁) 0 p := by
    rw [budget₁]
    apply Instance.tighter_of_le
    intro n same
    exact enough n ((budget_eq ..).symm.trans (budgeted.symm.trans same))
  -- Both engines have one set of settings, metering aside, and both pools one slot to give.
  rw [alike.engine, alike.limits] at tighter
  have late := Instance.creationLaws.late r₁.pool m tighter
  rw [budget₁, ← alike.engine, ← alike.limits] at late
  rw [alike.pool]
  exact late

theorem load_alike (alike : r₁.Alike r₂) (source : Source) :
    source.load r₂.engine = source.load r₁.engine := by
  rw [alike.engine]
  exact load_metering _ _ source

theorem create_error_alike (alike : r₁.Alike r₂)
    (enough : ∀ n, r₂.budget fuel₂ = some n → granted r₁.limits fuel₁ ≤ n) {source : Source}
    {e : Failure} (fails : source.create r₁ fuel₁ = .error e) (other : ¬ e.SaysExhausted) :
    source.create r₂ fuel₂ = .error e := by
  rw [create_eq_error, load_alike alike]
  rcases create_eq_error.mp fails with broken | ⟨m, loads, unmade⟩
  · exact .inl broken
  · refine .inr ⟨m, loads, ?_⟩
    rcases create_alike alike enough m with ⟨e', unmade', reports⟩ | same
    · cases unmade.symm.trans unmade'
      exact absurd reports other
    · exact map_eq_error.mp (same.symm.trans unmade)

theorem create_ok_alike (alike : r₁.Alike r₂)
    (enough : ∀ n, r₂.budget fuel₂ = some n → granted r₁.limits fuel₁ ≤ n) {source : Source}
    (created : source.create r₁ fuel₁ = .ok (h₁, r₁')) :
    ∃ h₂ r₂' i, source.create r₂ fuel₂ = .ok (h₂, r₂') ∧ (r₂.issued = r₁.issued → h₂ = h₁) ∧
      r₁'.get? h₁ = some (i.late (some (granted r₁.limits fuel₁)) 0) ∧ r₂'.get? h₂ = some i ∧
      i.program.budget = r₂.budget fuel₂ := by
  obtain ⟨m, i₁, pool₁, loads, made, rfl, rfl⟩ := create_eq_ok.mp created
  rcases create_alike alike enough m with ⟨e, fails, -⟩ | same
  · cases made.symm.trans fails
  · obtain ⟨⟨i, pool⟩, made', tells⟩ := map_eq_ok.mp (same.symm.trans made)
    cases tells
    have created' : source.create r₂ fuel₂ = .ok (r₂.freshHandle, r₂.enroll i pool₁) :=
      create_eq_ok.mpr ⟨m, i, pool₁, (load_alike alike source).trans loads, made', rfl, rfl⟩
    refine ⟨_, _, i, created', ?_, get?_enroll.trans (if_pos rfl), get?_enroll.trans (if_pos rfl),
      ?_⟩
    · intro issued
      unfold freshHandle
      rw [issued]
    · obtain ⟨calls, -, program, -⟩ := Instance.creationLaws.links made'
      rw [program]
      exact budget_eq ..

theorem metering_transparent (alike : r₁.Alike r₂)
    (enough : ∀ n, r₂.budget fuel₂ = some n → granted r₁.limits fuel₁ ≤ n) (source : Source) :
    (∀ e, source.create r₁ fuel₁ = .error e → ¬ e.SaysExhausted →
      source.create r₂ fuel₂ = .error e) ∧
    ∀ h₁ r₁', source.create r₁ fuel₁ = .ok (h₁, r₁') →
      ∃ h₂ r₂', source.create r₂ fuel₂ = .ok (h₂, r₂') ∧ (r₂.issued = r₁.issued → h₂ = h₁) ∧
        ∀ ops, .failure .fuelExhausted ∉ (r₁'.trace (opsOn h₁ ops)).map Prod.snd →
          r₁'.InStep r₂' h₁ h₂ (granted r₁.limits fuel₁) (r₂.budget fuel₂) ops := by
  refine ⟨fun e fails other => create_error_alike alike enough fails other, ?_⟩
  intro h₁ r₁' created
  obtain ⟨h₂, r₂', i, created', handles, live₁, live₂, budgeted⟩ :=
    create_ok_alike alike enough created
  refine ⟨h₂, r₂', created', handles, fun ops fine => ?_⟩
  rw [← budgeted] at enough ⊢
  exact inStep_of_late live₁ live₂ enough fine

theorem metering_transparent_stopping : ∃ r₁ r₂, create {} = .ok r₁ ∧
    create { engine := { metered := false } } = .ok r₂ ∧ r₁.Alike r₂ ∧
    (∀ n, r₂.budget none = some n → granted r₁.limits (some 2) ≤ n) ∧
    ∃ r₁' r₂', (Source.ofModule stopping).create r₁ (some 2) = .ok (1, r₁') ∧
      (Source.ofModule stopping).create r₂ none = .ok (1, r₂') ∧
      (let ops : List Instance.Op := [.call none "run" [], .fuelLeft, .call none "stop" []]
       let t := Wasm.Trap.unreachableCodeReached
       (r₁'.trace (opsOn 1 ops)).map Prod.snd = [.failure (.trap t.message (some t.code)),
          .fuel (some 1), .failure (.exportNotFound "stop")] ∧
        r₁'.InStep r₂' 1 1 2 none ops) := by
  have alike {r₁ r₂ : Registry} (created₁ : create {} = .ok r₁)
      (created₂ : create { engine := { metered := false } } = .ok r₂) : r₁.Alike r₂ := by
    cases created₁
    cases created₂
    exact ⟨rfl, rfl, rfl, rfl⟩
  have enough {r₁ r₂ : Registry} (created₁ : create {} = .ok r₁)
      (created₂ : create { engine := { metered := false } } = .ok r₂) :
      ∀ n, r₂.budget none = some n → granted r₁.limits (some 2) ≤ n := by
    cases created₁
    cases created₂
    nofun
  refine ⟨_, _, rfl, rfl, alike rfl rfl, nofun, _, _, rfl, rfl, rfl, ?_⟩
  obtain ⟨-, runs⟩ := metering_transparent (alike rfl rfl) (enough rfl rfl) (.ofModule stopping)
  obtain ⟨h₂, r₂', created, same, inStep⟩ := runs 1 _ rfl
  cases created
  apply inStep
  show _ ∉ [Answer.failure (.trap _ _), .fuel _, .failure (.exportNotFound _)]
  simp

end Registry

end ModuleHost
