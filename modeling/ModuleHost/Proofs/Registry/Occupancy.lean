import ModuleHost.Proofs.Instance.Fuel
import ModuleHost.Proofs.Registry.Creation

namespace ModuleHost

namespace Pool

def fullMessage (capacity : Nat) : String :=
  "maximum concurrent limit of " ++ toString capacity ++ " for core instances reached"

theorem acquire_eq_error {p : Pool} {reason : String} :
    p.acquire = .error reason ↔
      ∃ n ∈ p.capacity, n ≤ p.occupied ∧ reason = fullMessage n := by
  unfold acquire
  cases p.capacity with
  | none => simp
  | some n =>
    by_cases full : n ≤ p.occupied
    · simp only [if_pos full, Option.mem_some_iff, exists_eq_left']
      exact ⟨fun same => ⟨full, (Except.error.inj same).symm⟩, fun ⟨_, same⟩ => same ▸ rfl⟩
    · simp [full]

theorem ne_fullMessage {text : String} {n : Nat} (letter : text.toList[2]? ≠ some 'x') :
    Failure.instantiation text ≠ .instantiation (fullMessage n) := by
  intro same
  have third : (fullMessage n).toList[2]? = some 'x' := by
    unfold fullMessage
    simp [String.append_assoc, String.toList_append]
  rw [Failure.instantiation.inj same] at letter
  exact letter third

end Pool

namespace GuestFault

open Pool (fullMessage ne_fullMessage)

theorem ne_full_of_trap {layers : List String} {t : Wasm.Trap} {n : Nat} :
    (⟨layers, .trap t⟩ : GuestFault).toCreationFailure ≠ .instantiation (fullMessage n) := by
  by_cases fuel : t = .outOfFuel
  · have told : (⟨layers, .trap t⟩ : GuestFault).toCreationFailure =
        .instantiation "fuel exhausted while running the start function" := by rw [fuel]; rfl
    rw [told]
    exact ne_fullMessage (by decide)
  · rw [toCreationFailure_of_trap fuel]
    exact ne_fullMessage (by simp [String.toList_append])

theorem ne_full_inGuest {reason : Wasm.Stop} {n : Nat} :
    (inGuest reason).toCreationFailure ≠ .instantiation (fullMessage n) := by
  cases reason with
  | trap t => exact ne_full_of_trap
  | host message =>
    have told : (inGuest (.host message)).toCreationFailure =
        .instantiation (backtrace ++ ": " ++ message) := rfl
    rw [told]
    exact ne_fullMessage (by simp [backtrace, String.toList_append])
  | stuck =>
    have told : (inGuest .stuck).toCreationFailure =
        .instantiation (backtrace ++ ": " ++ "guest code cannot go on") := rfl
    rw [told]
    exact ne_fullMessage (by decide)

end GuestFault

namespace Instance

open Pool (fullMessage ne_fullMessage)

variable {engine : Engine} {limits : Settings.Limits} {pool pool' : Pool} {m : GuestModule}
  {fuel : Option UInt64} {calls : List Wasi.Call} {n : Nat}

theorem ne_full_of_acquire (links : Linking.resolve engine.settings.wasi m.module = .ok calls)
    (taken : pool.acquire = .ok pool') :
    create engine limits pool m fuel ≠ .error (.instantiation (fullMessage n)) := by
  intro fails
  generalize told : Failure.instantiation (fullMessage n) = e at fails
  cases create_eq_error_iff.mp fails with
  | link unlinked => cases links.symm.trans unlinked
  | slot _ full => cases taken.symm.trans full
  | memory _ _ unmade =>
    obtain ⟨l, -, -, same⟩ := makeMemories_eq_error unmade
    exact ne_fullMessage (by simp [String.toList_append]) (same.symm.trans told.symm)
  | segment => exact GuestFault.ne_full_of_trap told.symm
  | start => exact GuestFault.ne_full_inGuest told.symm

theorem create_eq_full (links : Linking.resolve engine.settings.wasi m.module = .ok calls)
    (limited : pool.capacity = some n) :
    create engine limits pool m fuel = .error (.instantiation (fullMessage n)) ↔
      n ≤ pool.occupied := by
  constructor
  · intro fails
    cases taken : pool.acquire with
    | ok pool' => exact absurd fails (ne_full_of_acquire links taken)
    | error reason =>
      obtain ⟨n', capacity, full, -⟩ := Pool.acquire_eq_error.mp taken
      rw [limited] at capacity
      cases capacity
      exact full
  · intro full
    have taken : pool.acquire = .error (fullMessage n) :=
      Pool.acquire_eq_error.mpr ⟨n, limited, full, rfl⟩
    simp only [create, links, taken]
    rfl

end Instance

theorem Data.Keyed.keys_erase {κ α : Type} [DecidableEq κ] (m : Keyed κ α) (k : κ) :
    (m.erase k).keys = m.keys.erase k := by
  rw [List.Nodup.erase_eq_filter m.keys_nodup]
  show (m.entries.filter (·.1 ≠ k)).map Prod.fst = (m.entries.map Prod.fst).filter _
  rw [List.filter_map]
  congr 1
  exact List.filter_congr fun e _ => by by_cases same : e.1 = k <;> simp [same]

namespace Registry

variable {r r' : Registry} {h : Handle} {i : Instance} {source : Source} {fuel : Option UInt64}
  {e : Failure} {n : Nat}

/-- Every live instance has a slot, and nothing else has one. -/
structure Counted (r : Registry) : Prop where
  occupied : r.pool.occupied = r.size
  room : ∀ n ∈ r.pool.capacity, r.size ≤ n

theorem size_set (live : r.contains h = true) : (r.set h i).size = r.size := by
  rw [size_eq_length, size_eq_length, (sameHandles_set live i).keys]

theorem size_enroll {pool : Pool} :
    (r.enroll i pool).size = if r.contains r.freshHandle then r.size else r.size + 1 := by
  have keys := r.instances.keys_put r.freshHandle i
  have length := congrArg List.length keys
  rw [size_eq_length, size_eq_length]
  refine length.trans ?_
  show (if r.contains r.freshHandle = true then _ else _ : List Handle).length = _
  split
  · rfl
  · exact List.length_append

theorem size_erase {pool : Pool} (live : r.contains h = true) :
    ({ r with instances := r.instances.erase h, pool := pool } : Registry).size + 1 = r.size := by
  have member := mem_keys.mpr live
  rw [size_eq_length, size_eq_length, Data.Keyed.keys_erase, List.length_erase_of_mem member]
  exact Nat.sub_add_cancel (List.length_pos_of_mem member)

theorem counted_enroll {pool : Pool} (counted : r.Counted) (taken : r.pool.acquire = .ok pool) :
    (r.enroll i pool).Counted := by
  obtain ⟨room, rfl⟩ := acquire_eq_ok.mp taken
  have occupied := counted.occupied
  refine ⟨?_, fun n limited => ?_⟩
  · rw [size_enroll]
    simp only [enroll]
    split
    · simp [Pool.release, occupied]
    · simp [occupied]
  · have limited' : n ∈ r.pool.capacity := by
      simp only [enroll] at limited
      split at limited <;> exact limited
    have free := room n limited'
    rw [size_enroll]
    split <;> omega

theorem counted_hold (counted : r.Counted) (live : r.contains h = true)
    (found : Option Instance) : (r.hold h found).Counted := by
  have occupied := counted.occupied
  cases found with
  | some i =>
    have size : (r.hold h (some i)).size = r.size := size_set live
    exact ⟨occupied.trans size.symm, size ▸ counted.room⟩
  | none =>
    have size : (r.hold h none).size + 1 = r.size := size_erase live
    refine ⟨?_, fun n limited => ?_⟩
    · show r.pool.occupied - 1 = _
      rw [occupied, ← size]
      rfl
    · have room := counted.room n limited
      exact Nat.le_of_succ_le (size.le.trans room)

theorem counted_step (counted : r.Counted) (op : Op) : (r.step op).2.Counted := by
  rcases op_cases op with ⟨source, fuel, rfl⟩ | ⟨j, q, rfl⟩ | rfl | rfl
  · cases created : source.create r fuel with
    | error e =>
      rw [step_source_of_error created]
      exact counted
    | ok result =>
      obtain ⟨m, i, pool, -, made, -, enrolled⟩ := create_eq_ok.mp created
      rw [step_source_of_ok created, enrolled]
      exact counted_enroll counted (Instance.creationLaws.takesSlot made)
  · cases found : r.get? j with
    | none =>
      rw [(step_to_of_dead found).1]
      exact counted
    | some i =>
      rw [step_to_of_live found]
      exact counted_hold counted (contains_iff.mpr ⟨i, found⟩) _
  · exact counted
  · exact counted

theorem counted_after [Runtime] {s : Settings} {r₀ : Registry} (created : create s = .ok r₀)
    (ops : List Op) : (r₀.after ops).Counted := by
  refine Run.invariant (P := fun _ r => Counted r) ?_
    (fun _ _ op counted => counted_step counted op) ops
  simp only [create, bind_eq_ok] at created
  obtain ⟨engine, -, same⟩ := created
  cases same
  exact ⟨rfl, fun n _ => Nat.zero_le n⟩

/-- A failed creation reports a bad module or a failed instantiation, and leaves the registry. -/
structure CreationFails (r : Registry) (source : Source) (fuel : Option UInt64) (e : Failure) :
    Prop where
  invalid : ∀ e', source.load r.engine = .error e' → e = e' ∧ ∃ text, e = .invalidModule text
  loaded : ∀ m, source.load r.engine = .ok m → ∃ text, e = .instantiation text
  unchanged : r.step (source.op fuel) = (.failure e, r)

theorem creationFails_of_error (fails : source.create r fuel = .error e) :
    r.CreationFails source fuel e := by
  refine ⟨fun e' broken => ?_, fun m loads => ?_, step_source_of_error fails⟩
  · rcases create_eq_error.mp fails with broken' | ⟨m, loads, -⟩
    · cases broken.symm.trans broken'
      exact ⟨rfl, invalidModule_of_load broken⟩
    · cases broken.symm.trans loads
  · rcases create_eq_error.mp fails with broken | ⟨m', -, unmade⟩
    · cases loads.symm.trans broken
    · exact Instance.instantiation_of_create unmade

def Event.isFailedCreation : Event → Bool
  | (.create .., .failure _) | (.createFrom .., .failure _) => true
  | _ => false

theorem step_of_isFailedCreation {op : Op} (failed : (r.record op).1.isFailedCreation = true) :
    (r.step op).2 = r := by
  rcases op_cases op with ⟨source, fuel, rfl⟩ | ⟨j, q, rfl⟩ | rfl | rfl
  · cases created : source.create r fuel with
    | error e => rw [step_source_of_error created]
    | ok result =>
      simp only [record, step_source_of_ok created] at failed
      cases source <;> cases failed
  · rcases q with (_ | _) | _ | _ | _ <;> cases failed
  · cases failed
  · cases failed

theorem run_without_failures (r : Registry) (ops : List Op) :
    let kept := (r.trace ops).filter (!·.isFailedCreation)
    r.trace (kept.map Prod.fst) = kept ∧ r.after (kept.map Prod.fst) = r.after ops := by
  -- Failed creations leave the registry as it was, so they can be left out one by one.
  induction ops generalizing r with
  | nil => exact ⟨rfl, rfl⟩
  | cons op ops ih =>
    have log : r.trace (op :: ops) = (r.record op).1 :: (r.step op).2.trace ops := rfl
    obtain ⟨answers, state⟩ := ih (r.step op).2
    dsimp only
    rw [log, List.filter_cons]
    cases failed : (r.record op).1.isFailedCreation with
    | true =>
      have same := step_of_isFailedCreation failed
      rw [same] at answers state
      simp only [Bool.not_true, Bool.false_eq_true, if_false, same]
      refine ⟨answers, state.trans ?_⟩
      show r.after ops = (r.step op).2.after ops
      rw [same]
    | false =>
      simp only [Bool.not_false, if_true, List.map_cons]
      exact ⟨congrArg ((r.record op).1 :: ·) answers, state⟩

theorem capacity_of_create [Runtime] {s : Settings} {r₀ : Registry} (created : create s = .ok r₀)
    (pooling : s.engine.pooling = true) : r₀.pool.capacity = some s.engine.poolSize.toNat := by
  simp only [create, pooling, bind_eq_ok] at created
  obtain ⟨engine, -, same⟩ := created
  cases same
  rfl

/-- In a pool with `n` slots, slots are as many as live instances, and creations that get as far as
the pool are refused there just when there are `n`. -/
structure Pooled (r : Registry) (n : Nat) : Prop where
  atMost : r.size ≤ n
  refusal : ∀ (source : Source) fuel m calls, source.load r.engine = .ok m →
    Linking.resolve r.engine.settings.wasi m.module = .ok calls →
      (source.create r fuel = .error (.instantiation (Pool.fullMessage n)) ↔ r.size = n)

theorem pooled_of_counted (counted : r.Counted) (limited : r.pool.capacity = some n) :
    r.Pooled n := by
  refine ⟨counted.room n limited, fun source fuel m calls loads links => ?_⟩
  have full : n ≤ r.pool.occupied ↔ r.size = n := by
    rw [counted.occupied]
    exact ⟨(counted.room n limited).antisymm, fun same => same.ge⟩
  have refused : Instance.create r.engine r.limits r.pool m fuel =
      .error (.instantiation (Pool.fullMessage n)) ↔ n ≤ r.pool.occupied :=
    Instance.create_eq_full links limited
  rw [← full, ← refused]
  exact create_eq_error_of_load loads

theorem failed_creations_leave_nothing [Runtime] {s : Settings} {r₀ : Registry}
    (created : create s = .ok r₀) (ops : List Op) :
    let r := r₀.after ops
    let kept := (r₀.trace ops).filter (!·.isFailedCreation)
    (∀ source fuel e, source.create r fuel = .error e → r.CreationFails source fuel e) ∧
      (r₀.trace (kept.map Prod.fst) = kept ∧ r₀.after (kept.map Prod.fst) = r) ∧
      r.pool.occupied = r.size ∧
      (s.engine.pooling = true → r.Pooled s.engine.poolSize.toNat) := by
  intro r kept
  have counted := counted_after created ops
  have same := sameSettings_after r₀ ops
  refine ⟨fun source fuel e => creationFails_of_error, run_without_failures r₀ ops,
    counted.occupied, fun pooling => pooled_of_counted counted ?_⟩
  rw [same.capacity]
  exact capacity_of_create created pooling

theorem failed_creations_leave_nothing_one_slot :
    let s : Settings := { engine := { pooling := true, poolSize := 1 } }
    let ops : List Op := [.createFrom stopping none, .create [] none, .createFrom stopping none,
      .destroy 1, .createFrom stopping none]
    ∃ r₀, create s = .ok r₀ ∧
      (r₀.trace ops).map Prod.snd = [.handle 1, .failure (.invalidModule "file too small"),
        .failure (.instantiation (Pool.fullMessage 1)), .done, .handle 2] ∧
      ((r₀.trace ops).filter (!·.isFailedCreation)).map Prod.fst =
        [.createFrom stopping none, .destroy 1, .createFrom stopping none] ∧
      (r₀.after ops).pool.occupied = 1 ∧ (r₀.after ops).size = 1 ∧ (r₀.after ops).Pooled 1 := by
  refine ⟨_, rfl, rfl, rfl, rfl, rfl, ?_⟩
  obtain ⟨-, -, -, pooled⟩ :=
    failed_creations_leave_nothing (s := { engine := { pooling := true, poolSize := 1 } }) rfl _
  exact pooled rfl

end Registry

end ModuleHost
