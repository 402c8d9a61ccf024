import ModuleHost.Proofs.Registry.CallFailure
import ModuleHost.Proofs.Registry.Creation

/-!
# Isolation of instances

What an instance answers depends on its creation and on the requests to it, and on nothing else
that happens in the registry: a fresh registry with the same settings, in which there is nothing but
that instance, gives the same answers (`isolated`).
-/

namespace ModuleHost

namespace Registry

/-- What the instance of a handle was asked for in a run, with the answers, until the handle was
handed out again. -/
def requestsTo (h : Handle) (log : List Event) : List (Request × Answer) :=
  (log.takeWhile fun e => e.issued ≠ some h).filterMap fun e =>
    e.1.request.bind fun (j, q) => if j = h then some (q, e.2) else none

/-- The same answer of another registry, in which the instance has another handle. -/
def Answer.rename (h k : Handle) : Answer → Answer
  | .failure (.invalidHandle j) => .failure (.invalidHandle (if j = h then k else j))
  | a => a

variable {h k : Handle} {log : List Event} {e : Event} {q : Request} {a : Answer}

theorem requestsTo_cons_issued (issues : e.issued = some h) : requestsTo h (e :: log) = [] := by
  simp [requestsTo, issues]

theorem requestsTo_cons_request (keeps : e.issued ≠ some h) (asks : e.1.request = some (h, q)) :
    requestsTo h (e :: log) = (q, e.2) :: requestsTo h log := by
  simp [requestsTo, keeps, asks]

theorem requestsTo_cons_other (keeps : e.issued ≠ some h)
    (other : ∀ q, e.1.request ≠ some (h, q)) : requestsTo h (e :: log) = requestsTo h log := by
  cases asks : e.1.request with
  | none => simp [requestsTo, keeps, asks]
  | some request =>
    obtain ⟨j, q⟩ := request
    have differ : j ≠ h := by
      rintro rfl
      exact other q asks
    simp [requestsTo, keeps, asks, differ]

theorem Answer.rename_of_ne (different : ∀ j, a ≠ .failure (.invalidHandle j)) :
    a.rename h k = a := by
  unfold rename
  split
  · exact absurd rfl (different _)
  · rfl

end Registry

namespace Instance

variable {i : Instance} {op : Op} {j : Handle}

theorem call_ne_invalidHandle {interface : Option String} {name : String} {args : List Value} :
    (i.call interface name args).1 ≠ .error (.invalidHandle j) := by
  intro fails
  rcases refusal_or_trap_of_call fails with ⟨refusal, -⟩ | trap
  · cases refusal
  · cases trap

theorem signature_ne_invalidHandle {interface : Option String} {name : String} :
    i.signature interface name ≠ .error (.invalidHandle j) := by
  intro fails
  rw [signature, map_eq_error] at fails
  have refusal : i.Refusal _ [] (.invalidHandle j) := refusal_of_resolve fails
  cases refusal

theorem step_ne_invalidHandle : (i.step op).1 ≠ .failure (.invalidHandle j) := by
  intro fails
  rcases error_of_step fails with
    ⟨interface, name, args, -, fails⟩ | ⟨interface, name, fails⟩ | ⟨offset, length, fails⟩
  · exact call_ne_invalidHandle fails
  · exact signature_ne_invalidHandle fails
  · cases group_of_memoryWith fails

end Instance

namespace Registry

variable {h k : Handle} {q : Request}

theorem effect_rename (found : Option Instance) :
    (q.effect k found).1 = ((q.effect h found).1).rename h k ∧
      (q.effect k found).2 = (q.effect h found).2 := by
  cases found with
  | none => cases q <;> simp [Request.effect, Answer.rename]
  | some i =>
    refine ⟨?_, by cases q <;> rfl⟩
    cases q with
    | act op => exact (Answer.rename_of_ne fun j => Instance.step_ne_invalidHandle).symm
    | use | contains | destroy => rfl

theorem trace_requestsTo {r r' : Registry} (same : r'.get? k = r.get? h) (ops : List Op) :
    r'.trace ((requestsTo h (r.trace ops)).map (·.1.to k)) =
      (requestsTo h (r.trace ops)).map fun (q, a) => (q.to k, a.rename h k) := by
  -- The first registry does all operations, the other one only the requests, which end when the
  -- handle is handed out again. Until then, both have the same instance.
  induction ops generalizing r r' with
  | nil => rfl
  | cons op ops ih =>
    show r'.trace ((requestsTo h ((r.record op).1 :: (r.step op).2.trace ops)).map (·.1.to k)) =
      (requestsTo h ((r.record op).1 :: (r.step op).2.trace ops)).map _
    by_cases issues : (r.record op).1.issued = some h
    · rw [requestsTo_cons_issued issues]
      rfl
    · by_cases asked : ∃ q, op.request = some (h, q)
      · obtain ⟨q, asks⟩ := asked
        rw [requestsTo_cons_request issues asks]
        obtain rfl := to_eq_iff.mpr asks
        obtain ⟨answers, leaves⟩ := effect_rename (h := h) (k := k) (q := q) (r.get? h)
        have next : (r'.step (q.to k)).2.get? k = (r.step (q.to h)).2.get? h := by
          rw [get?_step_to, get?_step_to, if_pos rfl, if_pos rfl, same, leaves]
        have answer : (r'.step (q.to k)).1 = ((r.step (q.to h)).1).rename h k := by
          rw [answer_step_to, answer_step_to, same, answers]
        have rest := ih next
        rw [List.map_cons, List.map_cons, ← rest]
        exact congrArg (fun a => (q.to k, a) :: _) answer
      · have other : ∀ q, op.request ≠ some (h, q) := fun q asks => asked ⟨q, asks⟩
        rw [requestsTo_cons_other issues other]
        exact ih (same.trans (get?_step other issues).symm)

variable {r₀ r : Registry} {i : Instance}

theorem create_again {source : Source} {fuel : Option UInt64} {r' : Registry}
    (same : r₀.SameSettings r) (idle : r₀.pool.occupied = 0)
    (created : source.create r fuel = .ok (h, r')) :
    ∃ r₁, source.create r₀ fuel = .ok (r₀.freshHandle, r₁) ∧
      r₁.get? r₀.freshHandle = r'.get? h := by
  obtain ⟨m, i, pool, loads, made, rfl, rfl⟩ := create_eq_ok.mp created
  rw [same.engine] at loads made
  rw [same.limits] at made
  have acquires : r₀.pool.acquire = .ok { r₀.pool with occupied := r₀.pool.occupied + 1 } := by
    refine acquire_eq_ok.mpr ⟨fun n capacity => ?_, rfl⟩
    have taken := acquire_eq_ok.mp (Instance.creationLaws.takesSlot made)
    have room := taken.1 n (same.capacity ▸ capacity)
    rw [idle]
    exact Nat.zero_lt_of_lt room
  have again := Instance.creationLaws.anySlot made acquires
  refine ⟨_, create_eq_ok.mpr ⟨m, i, _, loads, again, rfl, rfl⟩, ?_⟩
  rw [get?_enroll, get?_enroll, if_pos rfl, if_pos rfl]

theorem fresh_of_create [Runtime] {s : Settings} (created : create s = .ok r₀) :
    r₀.freshHandle = 1 ∧ r₀.pool.occupied = 0 := by
  simp only [create, bind_eq_ok] at created
  obtain ⟨engine, -, same⟩ := created
  cases same
  exact ⟨rfl, rfl⟩

/-- An instance answers as in a fresh registry of its own, whatever else happens in the registry,
and requests to it and to other instances can be made in any order. -/
theorem isolated [Runtime] {s : Settings} (created : create s = .ok r₀) (before : List Op) {op : Op}
    (issues : ((r₀.after before).record op).1.issued = some h) (since : List Op) :
    let r := ((r₀.after before).step op).2
    let asked := requestsTo h (r.trace since)
    (r₀.trace (op :: asked.map (·.1.to 1)) =
        (op, .handle 1) :: asked.map fun (q, a) => (q.to 1, a.rename h 1)) ∧
      ∀ j ≠ h, ∀ q q' : Request,
        (((r.after since).step (q'.to j)).2.step (q.to h)).1 = ((r.after since).step (q.to h)).1 ∧
        (((r.after since).step (q.to h)).2.step (q'.to j)).1 = ((r.after since).step (q'.to j)).1 ∧
        (((r.after since).step (q'.to j)).2.step (q.to h)).2 =
          (((r.after since).step (q.to h)).2.step (q'.to j)).2 := by
  intro r asked
  obtain ⟨first, idle⟩ := fresh_of_create created
  obtain ⟨source, fuel, rfl, made⟩ := source_of_issued issues
  obtain ⟨r₁, again, same⟩ := create_again (sameSettings_after r₀ before) idle made
  have starts := step_source_of_ok again
  rw [first] at starts same
  refine ⟨?_, fun j differ q q' => ?_⟩
  · have answers := trace_requestsTo same since
    show (source.op fuel, (r₀.step (source.op fuel)).1) ::
      (r₀.step (source.op fuel)).2.trace (asked.map (·.1.to 1)) = _
    rw [starts, answers]
  · obtain ⟨answer, state⟩ := step_comm (r := r.after since) differ.symm q q'
    exact ⟨answer, (step_comm differ q' q).1, state⟩

theorem isolated_in_used_slot :
    let op : Op := .createFrom stopping (some 9)
    let before : List Op := [.createFrom stopping none, .call 1 none "run" [], .destroy 1]
    let since : List Op := [.createFrom stopping none, .call 2 none "run" [], .destroy 3,
      .fuelLeft 2, .call 3 none "run" [], .destroy 2, .fuelLeft 2]
    ∃ r₀, create { engine := { pooling := true, poolSize := 2 } } = .ok r₀ ∧
      ((r₀.after before).record op).1.issued = some 2 ∧
      let asked := requestsTo 2 (((r₀.after before).step op).2.trace since)
      asked.length = 4 ∧
        r₀.trace (op :: asked.map (·.1.to 1)) =
          (op, .handle 1) :: asked.map fun (q, a) => (q.to 1, a.rename 2 1) := by
  intro op before since
  refine ⟨_, rfl, rfl, rfl, ?_⟩
  have issues {r₀ : Registry}
      (created : create { engine := { pooling := true, poolSize := 2 } } = .ok r₀) :
      ((r₀.after before).record op).1.issued = some 2 := by
    cases created
    rfl
  exact (isolated (s := { engine := { pooling := true, poolSize := 2 } }) rfl before (issues rfl)
    since).1

end Registry

end ModuleHost
