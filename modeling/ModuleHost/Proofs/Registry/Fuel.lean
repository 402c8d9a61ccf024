import ModuleHost.CommandLine.Program
import ModuleHost.Proofs.Boundary.ErrorChannel
import ModuleHost.Proofs.Instance.Budget
import ModuleHost.Proofs.Registry.CallFailure
import ModuleHost.Proofs.Registry.Creation

namespace ModuleHost

namespace Registry

open CommandLine (Command)

def granted (limits : Settings.Limits) (fuel : Option UInt64) : Nat :=
  match fuel, limits.fuel with
  | some n, _ => n.toNat
  | none, some n => n.toNat
  | none, none => 2 ^ 64 - 1

theorem budget_eq (engine : Settings.Engine) (limits : Settings.Limits) (fuel : Option UInt64) :
    Instance.budget engine limits fuel =
      if engine.metered then some (granted limits fuel) else none := by
  unfold Instance.budget granted
  cases fuel <;> cases limits.fuel <;> rfl

/-- The ways to have an instance created, and the fuel that is then asked for. -/
inductive Creates (r : Registry) : Option UInt64 → Handle → Registry → Prop
  | source (source : Source) {fuel : Option UInt64} {h : Handle} {r' : Registry}
    (created : source.create r fuel = .ok (h, r')) : Creates r fuel h r'
  | outside {p p' : Boundary.Embedding} {t : Boundary.Thread} {wasm : Option (List UInt8)}
    {fuel : UInt64} {h : Handle} {r' : Registry} (stands : p.registry = .ok r)
    (created : p.createInstance t wasm fuel = (h, p')) (succeeds : h ≠ 0)
    (stands' : p'.registry = .ok r') : Creates r (if fuel = 0 then none else some fuel) h r'
  | commandLine {read : Files.Reader} {path : String} {m : GuestModule} {fuel : Option UInt64}
    {h : Handle} {r' : Registry} (loads : CommandLine.loadModule read r path = .ok m)
    (created : CommandLine.during "Failed to instantiate module" (r.createFrom m fuel) =
      .ok (h, r')) : Creates r fuel h r'

variable {r r' : Registry} {fuel : Option UInt64} {h : Handle} {e : Failure}

theorem Creates.exists_source (creates : r.Creates fuel h r') :
    ∃ source : Source, source.create r fuel = .ok (h, r') := by
  cases creates with
  | @source source fuel h r' created => exact ⟨source, created⟩
  | @outside p p' t wasm fuel h r' stands created succeeds stands' =>
    unfold Boundary.Embedding.createInstance at created
    cases made : p.create wasm fuel with
    | error e =>
      simp only [made] at created
      cases created
      exact absurd rfl succeeds
    | ok result =>
      simp only [made] at created
      cases created
      cases stands'
      cases wasm with
      | none =>
        simp only [Boundary.Embedding.create, Boundary.Embedding.theRegistry, stands] at made
        cases made
      | some bytes =>
        rw [Boundary.Embedding.create_of_registry stands] at made
        exact ⟨.ofBytes bytes, made⟩
  | @commandLine read path m fuel h r' loads created =>
    exact ⟨.ofModule m, mapError_eq_ok.mp created⟩

theorem not_saysExhausted_of_invalid {text : String} :
    ¬ (Failure.invalidModule text).SaysExhausted := by
  rintro (same | same) <;> cases same

theorem not_saysExhausted_of_ofFile {engine : Engine} {read : Files.Reader} {path : String}
    (fails : GuestModule.ofFile engine read path = .error e) : ¬ e.SaysExhausted := by
  rcases GuestModule.ofFile_eq_error fails with ⟨text, rfl⟩ | ⟨reason, rfl⟩
  · rintro (same | same) <;> cases same
  · exact not_saysExhausted_of_invalid

section Unmetered

variable (unmetered : r.engine.settings.metered = false)

include unmetered

theorem not_saysExhausted_of_source {source : Source}
    (fails : source.create r fuel = .error e) : ¬ e.SaysExhausted := by
  rcases create_eq_error.mp fails with fails | ⟨m, -, fails⟩
  · obtain ⟨text, rfl⟩ := invalidModule_of_load fails
    exact not_saysExhausted_of_invalid
  · intro reports
    obtain ⟨ready, f, store, -, -, stops⟩ := Instance.exhausted_of_create fails reports
    have spends := Wasm.callLaws.spends
      (Instance.linked r.engine r.limits m.module fuel ready.calls) f [] ready.store
    rw [stops] at spends
    have empty := spends.2 rfl
    have budgeted : (Instance.linked r.engine r.limits m.module fuel ready.calls).budget =
        none := by
      rw [Instance.linked, budget_eq, unmetered]
      rfl
    rw [Wasm.Program.not_isExhausted budgeted] at empty
    cases empty

theorem unmetered_of_source {source : Source} (created : source.create r fuel = .ok (h, r')) :
    ∃ i, r'.get? h = some i ∧ i.Unmetered := by
  obtain ⟨m, i, pool, -, made, rfl, rfl⟩ := create_eq_ok.mp created
  obtain ⟨calls, -, program, -⟩ := Instance.creationLaws.links made
  refine ⟨_, get?_enroll.trans (if_pos rfl), Instance.unmetered_of_budget ?_⟩
  rw [program]
  exact (budget_eq ..).trans (by rw [unmetered]; rfl)

theorem not_saysExhausted_of_call {source : Source} {interface : Option String} {name : String}
    {args : List Value} (created : source.create r fuel = .ok (h, r'))
    (fails : (r'.call h interface name args).1 = .error e) : ¬ e.SaysExhausted := by
  rintro (rfl | rfl)
  · obtain ⟨i, live, free⟩ := unmetered_of_source unmetered created
    have call : (i.call interface name args).1 = .error .fuelExhausted := by
      rwa [call_of_live live] at fails
    refine free.never [.call interface name args] (List.mem_singleton.mpr ?_)
    simp only [Instance.step, call]
    rfl
  · rcases refused_or_stopped fails with refused | stopped
    · cases refused.group
    · cases stopped.group

theorem not_saysExhausted_of_run {read : Files.Reader} {path name : String}
    {interface : Option String} {args : List Value} {report : CommandLine.Report}
    (fails : (Command.run path name interface fuel args).perform read r = .error report) :
    ¬ report.failure.SaysExhausted := by
  simp only [Command.perform, CommandLine.during, bind_eq_error, mapError_eq_error] at fails
  rcases fails with fails | ⟨m, -, ⟨e, fails, rfl⟩ | ⟨⟨h, r'⟩, created, ⟨e, fails, rfl⟩ | fails⟩⟩
  · simp only [CommandLine.loadModule, CommandLine.during, mapError_eq_error] at fails
    obtain ⟨e, fails, rfl⟩ := fails
    exact not_saysExhausted_of_ofFile fails
  · have made : (Source.ofModule m).create r fuel = .error e := fails
    exact not_saysExhausted_of_source unmetered made
  · have made : (Source.ofModule m).create r fuel = .ok (h, r') := mapError_eq_ok.mp created
    exact not_saysExhausted_of_call unmetered made fails
  · obtain ⟨results, -, returns⟩ := fails
    cases returns

theorem not_saysExhausted_of_outside {p : Boundary.Embedding} {wasm : Option (List UInt8)}
    {fuel : UInt64} (stands : p.registry = .ok r) (fails : p.create wasm fuel = .error e) :
    ¬ e.SaysExhausted := by
  cases wasm with
  | none =>
    simp only [Boundary.Embedding.create, Boundary.Embedding.theRegistry, stands] at fails
    cases fails
    rintro (same | same) <;> cases same
  | some bytes =>
    rw [Boundary.Embedding.create_of_registry stands] at fails
    have made : (Source.ofBytes bytes).create r (Boundary.Embedding.fuelOf fuel) = .error e := fails
    exact not_saysExhausted_of_source unmetered made

end Unmetered

/-- Neither creations nor commands report exhausted fuel. -/
structure NeverExhausts (r : Registry) : Prop where
  source : ∀ (source : Source) fuel e, source.create r fuel = .error e → ¬ e.SaysExhausted
  outside : ∀ (p p' : Boundary.Embedding) t wasm fuel, p.registry = .ok r →
    p.createInstance t wasm fuel = (0, p') → ∃ e, p' = p.fail t e ∧ ¬ e.SaysExhausted
  commandLine : ∀ read path name interface fuel args report,
    (Command.run path name interface fuel args).perform read r = .error report →
      ¬ report.failure.SaysExhausted

theorem neverExhausts_of_unmetered (unmetered : r.engine.settings.metered = false) :
    r.NeverExhausts where
  source _ _ _ := not_saysExhausted_of_source unmetered
  outside p p' t wasm fuel stands creates := by
    unfold Boundary.Embedding.createInstance at creates
    cases made : p.create wasm fuel with
    | ok result =>
      simp only [made] at creates
      exact absurd (congrArg Prod.fst creates) (Boundary.Embedding.create_ne_zero made)
    | error e =>
      simp only [made] at creates
      cases creates
      exact ⟨e, rfl, not_saysExhausted_of_outside unmetered stands made⟩
  commandLine _ _ _ _ _ _ _ := not_saysExhausted_of_run unmetered

theorem metered_of_source [Runtime] {source : Source} {settings : Settings.Engine}
    (stands : Engine.create settings = .ok r.engine) (metered : r.engine.settings.metered = true)
    (created : source.create r fuel = .ok (h, r')) :
    ∃ i, r'.get? h = some i ∧ i.Metered (granted r.limits fuel) := by
  obtain ⟨m, i, pool, -, made, rfl, rfl⟩ := create_eq_ok.mp created
  obtain ⟨ready, store, found, starts, rfl, -⟩ := Instance.create_eq_ok.mp made
  refine ⟨_, get?_enroll.trans (if_pos rfl), ?_⟩
  have budgeted : Instance.budget r.engine.settings r.limits fuel =
      some (granted r.limits fuel) := by
    rw [budget_eq, metered]
    rfl
  exact Instance.metered_of_budget (Instance.fuelSpent_of_ready found) budgeted starts
    (Instance.nesting_pos stands)

theorem fuel_lifetime [Runtime] {s : Settings} {r₀ : Registry} (created : create s = .ok r₀)
    (before : List Op) :
    (∀ fuel h r', (r₀.after before).Creates fuel h r' → ∃ i : Instance,
      (∀ ops, (r'.trace (opsOn h ops)).map Prod.snd = i.trace ops ∧
        (r'.after (opsOn h ops)).get? h = some (i.after ops)) ∧
      (s.engine.metered = true → i.Metered (granted s.limits fuel)) ∧
      (s.engine.metered = false → i.Unmetered)) ∧
    (s.engine.metered = false → (r₀.after before).NeverExhausts) := by
  obtain ⟨stands, settings, limits⟩ := settings_of_create created
  have same := sameSettings_after r₀ before
  rw [← same.engine] at stands settings
  rw [← same.limits] at limits
  refine ⟨fun fuel h r' creates => ?_, fun unmetered => ?_⟩
  · obtain ⟨source, made⟩ := creates.exists_source
    cases metering : s.engine.metered with
    | true =>
      obtain ⟨i, live, metered⟩ := metered_of_source stands (settings ▸ metering) made
      exact ⟨i, run_opsOn live, fun _ => limits ▸ metered, nofun⟩
    | false =>
      obtain ⟨i, live, unmetered⟩ := unmetered_of_source (settings ▸ metering) made
      exact ⟨i, run_opsOn live, nofun, fun _ => unmetered⟩
  · exact neverExhausts_of_unmetered (settings ▸ unmetered)

theorem fuel_lifetime_stopping : ∃ r₀, create {} = .ok r₀ ∧
    ∃ h r', (Source.ofModule stopping).create r₀ (some 2) = .ok (h, r') ∧ ∃ i : Instance,
      (let run : Instance.Op := .call none "run" []
       let t := Wasm.Trap.unreachableCodeReached
       i.trace [run, .fuelLeft, run, .fuelLeft, run] = [.failure (.trap t.message (some t.code)),
        .fuel (some 1), .failure .fuelExhausted, .fuel (some 0), .failure .fuelExhausted]) ∧
      i.Metered 2 := by
  refine ⟨_, rfl, _, _, rfl, ?_⟩
  obtain ⟨lives, -⟩ := fuel_lifetime (s := {}) rfl []
  obtain ⟨i, run, metered, -⟩ := lives (some 2) _ _ (.source (.ofModule stopping) rfl)
  exact ⟨i, (run _).1.symm.trans rfl, metered rfl⟩

end Registry

end ModuleHost
