import ModuleHost.Proofs.GuestModule
import ModuleHost.Proofs.Instance.Laws
import ModuleHost.Proofs.Registry.Requests

namespace ModuleHost.Registry

inductive Source where
  | ofBytes (bytes : List UInt8)
  | ofModule (m : GuestModule)

namespace Source

def load (engine : Engine) : Source → Except Failure GuestModule
  | .ofBytes bytes => GuestModule.ofBytes engine bytes
  | .ofModule m => .ok m

def create (r : Registry) (fuel : Option UInt64) : Source → Except Failure (Handle × Registry)
  | .ofBytes bytes => r.createOf bytes fuel
  | .ofModule m => r.createFrom m fuel

def op (fuel : Option UInt64) : Source → Op
  | .ofBytes bytes => .create bytes fuel
  | .ofModule m => .createFrom m fuel

end Source

variable {r r' : Registry} {h : Handle} {i : Instance} {source : Source} {fuel : Option UInt64}

theorem op_cases (op : Op) :
    (∃ source fuel, op = Source.op fuel source) ∨ (∃ h q, op = Request.to h q) ∨
      op = .size ∨ op = .isEmpty := by
  cases asks : op.request with
  | some request => exact .inr (.inl ⟨request.1, request.2, (to_eq_iff.mpr asks).symm⟩)
  | none =>
    cases op with
    | create bytes fuel => exact .inl ⟨.ofBytes bytes, fuel, rfl⟩
    | createFrom m fuel => exact .inl ⟨.ofModule m, fuel, rfl⟩
    | size => exact .inr (.inr (.inl rfl))
    | isEmpty => exact .inr (.inr (.inr rfl))
    | _ => cases asks

theorem create_source :
    source.create r fuel = do
      let m ← source.load r.engine
      let (i, pool) ← Instance.create r.engine r.limits r.pool m fuel
      return (r.freshHandle, r.enroll i pool) := by
  cases source <;> rfl

theorem create_eq_ok :
    source.create r fuel = .ok (h, r') ↔
      ∃ m i pool, source.load r.engine = .ok m ∧
        Instance.create r.engine r.limits r.pool m fuel = .ok (i, pool) ∧
        h = r.freshHandle ∧ r' = r.enroll i pool := by
  simp only [create_source, bind_eq_ok, Prod.exists]
  constructor
  · rintro ⟨m, loads, i, pool, created, same⟩
    cases same
    exact ⟨m, i, pool, loads, created, rfl, rfl⟩
  · rintro ⟨m, i, pool, loads, created, rfl, rfl⟩
    exact ⟨m, loads, i, pool, created, rfl⟩

theorem invalidModule_of_load {e : Failure} (fails : source.load r.engine = .error e) :
    ∃ text, e = .invalidModule text := by
  cases source with
  | ofModule m => cases fails
  | ofBytes bytes => exact GuestModule.ofBytes_eq_error fails

theorem create_eq_error {e : Failure} :
    source.create r fuel = .error e ↔ source.load r.engine = .error e ∨
      ∃ m, source.load r.engine = .ok m ∧
        Instance.create r.engine r.limits r.pool m fuel = .error e := by
  simp only [create_source, bind_eq_error]
  constructor
  · rintro (broken | ⟨m, loads, unmade | ⟨made, -, returns⟩⟩)
    · exact .inl broken
    · exact .inr ⟨m, loads, unmade⟩
    · cases returns
  · rintro (broken | ⟨m, loads, unmade⟩)
    · exact .inl broken
    · exact .inr ⟨m, loads, .inl unmade⟩

theorem create_eq_error_of_load {m : GuestModule} {e : Failure}
    (loads : source.load r.engine = .ok m) :
    source.create r fuel = .error e ↔
      Instance.create r.engine r.limits r.pool m fuel = .error e := by
  rw [create_eq_error]
  constructor
  · rintro (broken | ⟨m', loads', unmade⟩)
    · cases loads.symm.trans broken
    · cases loads.symm.trans loads'
      exact unmade
  · exact fun unmade => .inr ⟨m, loads, unmade⟩

theorem step_source_of_ok (created : source.create r fuel = .ok (h, r')) :
    r.step (source.op fuel) = (.handle h, r') := by
  cases source <;> simp only [Source.create] at created <;> simp only [Source.op, step, created]

theorem step_source_of_error {e : Failure} (fails : source.create r fuel = .error e) :
    r.step (source.op fuel) = (.failure e, r) := by
  cases source <;> simp only [Source.create] at fails <;> simp only [Source.op, step, fails]

theorem source_of_issued {op : Op} (issues : (r.record op).1.issued = some h) :
    ∃ source fuel, op = Source.op fuel source ∧ source.create r fuel = .ok (h, (r.step op).2) := by
  rcases op_cases op with ⟨source, fuel, rfl⟩ | ⟨j, q, rfl⟩ | rfl | rfl
  · refine ⟨source, fuel, rfl, ?_⟩
    cases created : source.create r fuel with
    | ok result =>
      obtain ⟨j, r'⟩ := result
      simp only [record, step_source_of_ok created] at issues ⊢
      cases source <;> cases issues <;> rfl
    | error e =>
      simp only [record, step_source_of_error created] at issues
      cases source <;> cases issues
  · rcases q with (_ | _) | _ | _ | _ <;> cases issues
  · cases issues
  · cases issues

theorem get?_enroll {j : Handle} {pool : Pool} :
    (r.enroll i pool).get? j = if j = r.freshHandle then some i else r.get? j :=
  r.instances.get?_put r.freshHandle j i

theorem get?_step {op : Op} (other : ∀ q, op.request ≠ some (h, q))
    (keeps : (r.record op).1.issued ≠ some h) : (r.step op).2.get? h = r.get? h := by
  rcases op_cases op with ⟨source, fuel, rfl⟩ | ⟨j, q, rfl⟩ | rfl | rfl
  · cases created : source.create r fuel with
    | ok result =>
      obtain ⟨j, r'⟩ := result
      have issues : (r.record (source.op fuel)).1.issued = some j := by
        simp only [record, step_source_of_ok created]
        cases source <;> rfl
      have differ : h ≠ j := fun same => keeps (same ▸ issues)
      obtain ⟨m, i, pool, -, -, rfl, rfl⟩ := create_eq_ok.mp created
      rw [step_source_of_ok created, get?_enroll, if_neg differ]
    | error e => rw [step_source_of_error created]
  · have differ : h ≠ j := fun same => other q (same ▸ to_eq_iff.mp rfl)
    rw [get?_step_to, if_neg differ]
  · rfl
  · rfl

structure SameSettings (r r' : Registry) : Prop where
  engine : r'.engine = r.engine
  limits : r'.limits = r.limits
  capacity : r'.pool.capacity = r.pool.capacity

theorem settings_of_create [Runtime] {s : Settings} (created : create s = .ok r) :
    Engine.create s.engine = .ok r.engine ∧ r.engine.settings = s.engine ∧ r.limits = s.limits := by
  simp only [create, bind_eq_ok] at created
  obtain ⟨engine, stands, same⟩ := created
  cases same
  refine ⟨stands, ?_, rfl⟩
  unfold Engine.create at stands
  split at stands <;> cases stands
  rfl

theorem acquire_eq_ok {p p' : Pool} :
    p.acquire = .ok p' ↔
      (∀ n ∈ p.capacity, p.occupied < n) ∧ p' = { p with occupied := p.occupied + 1 } := by
  obtain ⟨capacity, occupied⟩ := p
  cases capacity with
  | none => simp [Pool.acquire, eq_comm]
  | some n =>
    by_cases full : n ≤ occupied
    · simp [Pool.acquire, full]
    · simp [Pool.acquire, full, Nat.lt_of_not_le full, eq_comm]

theorem sameSettings_step (r : Registry) (op : Op) : r.SameSettings (r.step op).2 := by
  rcases op_cases op with ⟨source, fuel, rfl⟩ | ⟨j, q, rfl⟩ | rfl | rfl
  · cases created : source.create r fuel with
    | ok result =>
      obtain ⟨m, i, pool, -, made, -, enrolled⟩ := create_eq_ok.mp created
      have kept : pool.capacity = r.pool.capacity := by
        rw [(acquire_eq_ok.mp (Instance.creationLaws.takesSlot made)).2]
      rw [step_source_of_ok created, enrolled]
      refine ⟨rfl, rfl, ?_⟩
      simp only [enroll]
      split <;> exact kept
    | error e =>
      rw [step_source_of_error created]
      exact ⟨rfl, rfl, rfl⟩
  · cases found : r.get? j with
    | some i =>
      rw [step_to_of_live found]
      cases (q.effect j (some i)).2 <;> exact ⟨rfl, rfl, rfl⟩
    | none =>
      rw [(step_to_of_dead found).1]
      exact ⟨rfl, rfl, rfl⟩
  · exact ⟨rfl, rfl, rfl⟩
  · exact ⟨rfl, rfl, rfl⟩

theorem sameSettings_after (r : Registry) (ops : List Op) : r.SameSettings (r.after ops) := by
  refine Run.invariant (P := fun _ r' => r.SameSettings r') ⟨rfl, rfl, rfl⟩ ?_ ops
  intro _ r' op same
  have step := sameSettings_step r' op
  exact ⟨step.engine.trans same.engine, step.limits.trans same.limits,
    step.capacity.trans same.capacity⟩

end ModuleHost.Registry
