import ModuleHost.Proofs.Registry.Run

namespace ModuleHost

theorem Registry.Answer.error_of_failure {α : Type} {answer : α → Answer} {x : Except Failure α}
    {e : Failure} (fails : Answer.of answer x = .failure e) (answers : ∀ a, answer a ≠ .failure e) :
    x = .error e := by
  cases x with
  | ok a => exact absurd fails (answers a)
  | error e' => exact congrArg Except.error (Answer.failure.inj fails)

namespace Instance

open Registry (Answer)

/-- What can be done with an instance, other than changing it at will. -/
inductive Op where
  | call (interface : Option String) (name : String) (args : List Value)
  | signature (interface : Option String) (name : String)
  | readBytes (offset length : Nat)
  | writeBytes (offset : Nat) (bytes : List UInt8)
  | fuelLeft
  | fingerprint

def step (i : Instance) : Op → Answer × Instance
  | .call interface name args =>
    let (answer, i) := i.call interface name args
    (.of .values answer, i)
  | .signature interface name => (.of .signature (i.signature interface name), i)
  | .readBytes offset length => (.of .bytes (i.readBytes offset length), i)
  | .writeBytes offset bytes =>
    match i.writeBytes offset bytes with
    | .ok i => (.done, i)
    | .error e => (.failure e, i)
  | .fuelLeft => (.fuel i.fuelLeft, i)
  | .fingerprint => (.text i.fingerprint, i)

def trace (i : Instance) (ops : List Op) : List Answer :=
  Run.trace step i ops

def after (i : Instance) (ops : List Op) : Instance :=
  Run.after step i ops

variable {i : Instance} {e : Failure}

theorem group_of_memoryWith {offset length : Nat}
    (fails : i.memoryWith offset length = .error e) : e.group = some .configuration := by
  rcases bind_eq_error.mp fails with absent | ⟨m, -, outside⟩
  · unfold memoryIndex at absent
    split at absent <;> cases absent
    rfl
  · dsimp only at outside
    split at outside <;> cases outside
    rfl

theorem error_of_step {op : Op} (fails : (i.step op).1 = .failure e) :
    (∃ interface name args, op = .call interface name args ∧
      (i.call interface name args).1 = .error e) ∨
    (∃ interface name, i.signature interface name = .error e) ∨
    ∃ offset length, i.memoryWith offset length = .error e := by
  cases op with
  | call interface name args =>
    exact .inl ⟨interface, name, args, rfl, Answer.error_of_failure fails nofun⟩
  | signature interface name =>
    exact .inr (.inl ⟨interface, name, Answer.error_of_failure fails nofun⟩)
  | readBytes offset length =>
    have reads : i.readBytes offset length = .error e := Answer.error_of_failure fails nofun
    exact .inr (.inr ⟨offset, length, map_eq_error.mp reads⟩)
  | writeBytes offset bytes =>
    cases writes : i.writeBytes offset bytes with
    | ok i' =>
      simp only [step, writes] at fails
      cases fails
    | error e' =>
      simp only [step, writes] at fails
      cases fails
      exact .inr (.inr ⟨offset, bytes.length, map_eq_error.mp writes⟩)
  | fuelLeft | fingerprint => cases fails

end Instance

namespace Registry

inductive Request where
  | act (op : Instance.Op)
  | use (change : Instance → Instance)
  | contains
  | destroy

def Request.to (h : Handle) : Request → Op
  | .act (.call interface name args) => .call h interface name args
  | .act (.signature interface name) => .signature h interface name
  | .act (.readBytes offset length) => .readBytes h offset length
  | .act (.writeBytes offset bytes) => .writeBytes h offset bytes
  | .act .fuelLeft => .fuelLeft h
  | .act .fingerprint => .fingerprint h
  | .use change => .use h change
  | .contains => .contains h
  | .destroy => .destroy h

def Op.request : Op → Option (Handle × Request)
  | .call h interface name args => some (h, .act (.call interface name args))
  | .signature h interface name => some (h, .act (.signature interface name))
  | .readBytes h offset length => some (h, .act (.readBytes offset length))
  | .writeBytes h offset bytes => some (h, .act (.writeBytes offset bytes))
  | .fuelLeft h => some (h, .act .fuelLeft)
  | .fingerprint h => some (h, .act .fingerprint)
  | .use h change => some (h, .use change)
  | .contains h => some (h, .contains)
  | .destroy h => some (h, .destroy)
  | .create .. | .createFrom .. | .size | .isEmpty => none

def Request.effect (h : Handle) : Request → Option Instance → Answer × Option Instance
  | .contains, found => (.flag found.isSome, found)
  | _, none => (.failure (.invalidHandle h), none)
  | .act op, some i =>
    let (answer, i) := i.step op
    (answer, some i)
  | .use change, some i => (.done, some (change i))
  | .destroy, some _ => (.done, none)

theorem to_eq_iff {h : Handle} {q : Request} {op : Op} :
    q.to h = op ↔ op.request = some (h, q) := by
  constructor
  · rintro rfl
    rcases q with (_ | _) | _ | _ | _ <;> rfl
  · intro asks
    cases op <;> cases asks <;> rfl

variable {r : Registry} {h j : Handle} {i : Instance} {q : Request}

def hold (r : Registry) (h : Handle) : Option Instance → Registry
  | some i => r.set h i
  | none => { r with instances := r.instances.erase h, pool := r.pool.release }

theorem get?_hold {found : Option Instance} :
    (r.hold h found).get? j = if j = h then found else r.get? j := by
  cases found with
  | some i => exact get?_set
  | none => exact r.instances.get?_erase h j

theorem step_to_of_live (live : r.get? h = some i) :
    r.step (q.to h) = ((q.effect h (some i)).1, r.hold h (q.effect h (some i)).2) := by
  have found : r.get h = .ok i := get_eq_ok.mpr live
  have there : r.contains h = true := contains_iff.mpr ⟨i, live⟩
  have same : r.set h i = r := set_of_get? live
  -- Putting back an instance that has not changed leaves the registry as it was.
  cases q with
  | act op =>
    cases op with
    | call interface name args =>
      simp only [Request.to, step, call, use_of_live live]
      rfl
    | signature interface name =>
      simp only [Request.to, step, signature_of_live live]
      exact Prod.ext rfl same.symm
    | readBytes offset length =>
      simp only [Request.to, step, readBytes, found]
      exact Prod.ext rfl same.symm
    | writeBytes offset bytes =>
      simp only [Request.to, step, writeBytes, found, Request.effect, Instance.step, bind,
        Except.bind]
      cases i.writeBytes offset bytes with
      | ok i' => rfl
      | error e => exact Prod.ext rfl same.symm
    | fuelLeft =>
      simp only [Request.to, step, fuelLeft, found]
      exact Prod.ext rfl same.symm
    | fingerprint =>
      simp only [Request.to, step, fingerprint, found]
      exact Prod.ext rfl same.symm
  | use change =>
    simp only [Request.to, step, use_of_live live]
    rfl
  | contains =>
    simp only [Request.to, step, there]
    exact Prod.ext rfl same.symm
  | destroy =>
    simp only [Request.to, step, destroy, there, if_true]
    rfl

theorem step_to_of_dead (dead : r.get? h = none) :
    r.step (q.to h) = ((q.effect h none).1, r) ∧ (q.effect h none).2 = none := by
  have failed : r.get h = .error (.invalidHandle h) :=
    get_eq_error.mpr ⟨contains_eq_false.mpr dead, rfl⟩
  have absent : r.contains h = false := contains_eq_false.mpr dead
  refine ⟨?_, by cases q <;> rfl⟩
  cases q with
  | act op =>
    cases op with
    | call interface name args =>
      simp only [Request.to, step, call, use_of_dead dead]
      rfl
    | signature interface name =>
      simp only [Request.to, step, signature_of_dead dead]
      rfl
    | readBytes | writeBytes | fuelLeft | fingerprint =>
      simp only [Request.to, step, readBytes, writeBytes, fuelLeft, fingerprint, failed]
      rfl
  | use change =>
    simp only [Request.to, step, use_of_dead dead]
    rfl
  | contains =>
    simp only [Request.to, step, absent]
    rfl
  | destroy =>
    simp only [Request.to, step, destroy, absent]
    rfl

theorem answer_step_to : (r.step (q.to h)).1 = (q.effect h (r.get? h)).1 := by
  cases found : r.get? h with
  | some i => rw [step_to_of_live found]
  | none => rw [(step_to_of_dead found).1]

theorem get?_step_to :
    (r.step (q.to h)).2.get? j = if j = h then (q.effect h (r.get? h)).2 else r.get? j := by
  cases found : r.get? h with
  | some i => rw [step_to_of_live found, get?_hold]
  | none =>
    obtain ⟨stays, dead⟩ := step_to_of_dead (q := q) found
    rw [stays, dead]
    split
    · rw [‹j = h›, found]
    · rfl

def opsOn (h : Handle) (ops : List Instance.Op) : List Op :=
  ops.map fun op => (Request.act op).to h

theorem run_opsOn (live : r.get? h = some i) (ops : List Instance.Op) :
    (r.trace (opsOn h ops)).map Prod.snd = i.trace ops ∧
      (r.after (opsOn h ops)).get? h = some (i.after ops) := by
  induction ops generalizing r i with
  | nil => exact ⟨rfl, live⟩
  | cons op ops ih =>
    have step : r.step ((Request.act op).to h) = ((i.step op).1, r.hold h (some (i.step op).2)) :=
      step_to_of_live live
    have next : (r.step ((Request.act op).to h)).2.get? h = some (i.step op).2 := by
      rw [step, get?_hold, if_pos rfl]
    obtain ⟨answers, state⟩ := ih next
    refine ⟨?_, state⟩
    show (r.step ((Request.act op).to h)).1 ::
      ((r.step ((Request.act op).to h)).2.trace (opsOn h ops)).map Prod.snd =
        (i.step op).1 :: (i.step op).2.trace ops
    rw [answers, step]

theorem hold_comm (differ : h ≠ j) (live : r.contains h = true) (live' : r.contains j = true)
    (found found' : Option Instance) :
    (r.hold j found').hold h found = (r.hold h found).hold j found' := by
  -- Both handles are there already, so putting keeps the order of the entries.
  have put {i i' : Instance} : (r.instances.put j i').put h i = (r.instances.put h i).put j i' :=
    Data.Keyed.put_comm differ i i' live live'
  cases found with
  | some i =>
    cases found' with
    | some i' => simp only [hold, set, put]
    | none => simp only [hold, set, Data.Keyed.erase_put (Ne.symm differ)]
  | none =>
    cases found' with
    | some i' => simp only [hold, set, Data.Keyed.erase_put differ]
    | none => simp only [hold, Data.Keyed.erase_comm (k := j) (j := h)]

theorem step_comm (differ : h ≠ j) (q q' : Request) :
    ((r.step (q'.to j)).2.step (q.to h)).1 = (r.step (q.to h)).1 ∧
      ((r.step (q'.to j)).2.step (q.to h)).2 = ((r.step (q.to h)).2.step (q'.to j)).2 := by
  have here : (r.step (q'.to j)).2.get? h = r.get? h := by rw [get?_step_to, if_neg differ]
  have there : (r.step (q.to h)).2.get? j = r.get? j := by rw [get?_step_to, if_neg differ.symm]
  refine ⟨by rw [answer_step_to, answer_step_to, here], ?_⟩
  cases found : r.get? h with
  | none =>
    rw [(step_to_of_dead found).1, (step_to_of_dead (here.trans found)).1]
  | some i =>
    cases found' : r.get? j with
    | none => rw [(step_to_of_dead found').1, (step_to_of_dead (there.trans found')).1]
    | some i' =>
      rw [step_to_of_live (here.trans found), step_to_of_live (there.trans found'),
        step_to_of_live found, step_to_of_live found']
      exact hold_comm differ (contains_iff.mpr ⟨i, found⟩) (contains_iff.mpr ⟨i', found'⟩) _ _

end Registry

end ModuleHost
