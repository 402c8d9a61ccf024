import Mathlib.Tactic
import ModuleHost.Boundary.Embedding
import ModuleHost.Proofs.List
import ModuleHost.Proofs.Registry.Basic
import ModuleHost.Proofs.Run

namespace ModuleHost.Boundary.Embedding

inductive Call where
  | create (wasm : Option (List UInt8)) (fuel : UInt64)
  | destroy (h : Handle)
  | invoke (h : Handle) (interface name : Option (List UInt8)) (slots : PointerArray)
  | length
  | take (buffer : Option (List UInt8))

def failureOf {α : Type} : Except Failure α → Option Failure
  | .ok _ => none
  | .error e => some e

def failure (p : Embedding) : Call → Option Failure
  | .create wasm fuel => failureOf (p.create wasm fuel)
  | .destroy h => if h = 0 then none else failureOf (p.theRegistry >>= (·.destroy h))
  | .invoke h interface name slots =>
    failureOf do
      let (interface, name, r) ← p.readTarget h interface name
      (r.use h (callOn · interface name slots)).1
  | .length | .take _ => none

def step (p : Embedding) (t : Thread) : Call → Embedding
  | .create wasm fuel => (p.createInstance t wasm fuel).2
  | .destroy h => p.destroyInstance t h
  | .invoke h interface name slots => (p.invoke t h interface name slots).2.2
  | .length => p
  | .take buffer => (p.takeError t buffer).2.2

def Call.clears : Call → Bool
  | .create .. | .take (some _) => true
  | .destroy _ | .invoke .. | .length | .take none => false

structure Event where
  thread : Thread
  call : Call
  failure : Option Failure

/-- A thread failed, and has neither failed again nor made a call that clears since. -/
def Pending (log : List Event) (t : Thread) (e : Failure) : Prop :=
  ∃ before last since, log = before ++ last :: since ∧ last.thread = t ∧ last.failure = some e ∧
    ∀ later ∈ since, later.thread = t → later.failure = none ∧ later.call.clears = false

def record (p : Embedding) (call : Thread × Call) : Event × Embedding :=
  (⟨call.1, call.2, p.failure call.2⟩, p.step call.1 call.2)

def trace (p : Embedding) (calls : List (Thread × Call)) : List Event :=
  Run.trace record p calls

def after (p : Embedding) (calls : List (Thread × Call)) : Embedding :=
  Run.after record p calls

section Pending

variable {log : List Event} {event : Event} {t : Thread} {e : Failure}

theorem not_pending_nil : ¬ Pending [] t e := by
  rintro ⟨before, last, since, same, -⟩
  simp at same

theorem pending_append_singleton :
    Pending (log ++ [event]) t e ↔
      event.thread = t ∧ event.failure = some e ∨
        Pending log t e ∧
          (event.thread = t → event.failure = none ∧ event.call.clears = false) := by
  simp only [Pending, exists_split_append_singleton (P := fun (last : Event) since =>
    last.thread = t ∧ last.failure = some e ∧
      ∀ later ∈ since, later.thread = t → later.failure = none ∧ later.call.clears = false),
    List.forall_mem_append, List.forall_mem_singleton]
  constructor
  · rintro (⟨here, fails, -⟩ | ⟨before, last, since, same, here, fails, quiet, quiet'⟩)
    · exact .inl ⟨here, fails⟩
    · exact .inr ⟨⟨before, last, since, same, here, fails, quiet⟩, quiet'⟩
  · rintro (⟨here, fails⟩ | ⟨⟨before, last, since, same, here, fails, quiet⟩, quiet'⟩)
    · exact .inl ⟨here, fails, fun _ member => absurd member List.not_mem_nil⟩
    · exact .inr ⟨before, last, since, same, here, fails, quiet, quiet'⟩

end Pending

variable {p : Embedding} {t u : Thread}

theorem errors_setError (slot : ErrorSlot) :
    (p.setError t slot).errors u = if u = t then slot else p.errors u :=
  rfl

theorem setError_errors : p.setError t (p.errors t) = p := by
  obtain ⟨registry, errors⟩ := p
  have same : (fun u => if u = t then errors t else errors u) = errors := by
    funext u
    by_cases here : u = t
    · rw [if_pos here, here]
    · rw [if_neg here]
  exact congrArg (Embedding.mk registry) same

def slotAfter (p : Embedding) (t : Thread) (c : Call) : ErrorSlot :=
  match p.failure c with
  | some e => .ofFailure e
  | none => if c.clears then none else p.errors t

theorem errors_step (p : Embedding) (t : Thread) (c : Call) :
    (p.step t c).errors = (p.setError t (p.slotAfter t c)).errors := by
  cases c with
  | create wasm fuel =>
    simp only [step, createInstance, slotAfter, failure]
    cases p.create wasm fuel <;> rfl
  | destroy h =>
    simp only [step, destroyInstance, slotAfter, failure]
    by_cases null : h = 0
    · simp only [if_pos null, Call.clears, Bool.false_eq_true, if_false, setError_errors]
    · simp only [if_neg null]
      cases p.theRegistry >>= (·.destroy h) with
      | ok r => simp only [failureOf, Call.clears, Bool.false_eq_true, if_false, setError_errors]
      | error e => rfl
  | invoke h interface name slots =>
    simp only [step, invoke, slotAfter, failure]
    cases p.readTarget h interface name with
    | error e => rfl
    | ok target =>
      obtain ⟨i, n, r⟩ := target
      simp only [bind, Except.bind]
      generalize r.use h (callOn · i n slots) = result
      obtain ⟨answer, r'⟩ := result
      cases answer with
      | ok slots' =>
        simp only [failureOf, Call.clears, Bool.false_eq_true, if_false, setError_errors]
      | error e => rfl
  | length => simp only [step, slotAfter, failure, Call.clears, Bool.false_eq_true, if_false,
      setError_errors]
  | take buffer =>
    cases buffer with
    | none => rfl
    | some old => rfl

theorem pending_step {log : List Event}
    (pending : ∀ t m, p.errors t = some m ↔ ∃ e, Pending log t e ∧ ErrorSlot.ofFailure e = some m)
    (u : Thread) (c : Call) (t : Thread) (m : List UInt8) :
    (p.step u c).errors t = some m ↔
      ∃ e, Pending (log ++ [⟨u, c, p.failure c⟩]) t e ∧ ErrorSlot.ofFailure e = some m := by
  simp only [errors_step, errors_setError, pending_append_singleton]
  by_cases here : t = u
  · subst here
    rw [if_pos rfl, slotAfter]
    cases p.failure c with
    | some e => simp
    | none =>
      cases c.clears with
      | true => simp
      | false => simp [pending]
  · simp [here, Ne.symm here, pending]

theorem pending_run (p : Embedding) (quiet : p.errors = fun _ => none)
    (calls : List (Thread × Call)) : ∀ t m, (p.after calls).errors t = some m ↔
      ∃ e, Pending (p.trace calls) t e ∧ ErrorSlot.ofFailure e = some m := by
  refine Run.invariant (P := fun log (p : Embedding) => ∀ t m, p.errors t = some m ↔
    ∃ e, Pending log t e ∧ ErrorSlot.ofFailure e = some m) ?_ ?_ calls
  · simp [quiet, not_pending_nil]
  · intro log p call pending
    exact pending_step pending call.1 call.2

theorem create_of_registry {bytes : List UInt8} {fuel : UInt64} {r : Registry}
    (stands : p.registry = .ok r) :
    p.create (some bytes) fuel = r.createOf bytes (fuelOf fuel) := by
  rw [create, theRegistry, stands]
  rfl

theorem createInstance_of_fails {wasm : Option (List UInt8)} {fuel : UInt64} {e : Failure}
    (fails : p.create wasm fuel = .error e) : p.createInstance t wasm fuel = (0, p.fail t e) := by
  rw [createInstance, fails]

theorem create_ne_zero {wasm : Option (List UInt8)} {fuel : UInt64} {h : Handle} {r : Registry}
    (created : p.create wasm fuel = .ok (h, r)) : h ≠ 0 := by
  obtain ⟨r₀, -, created⟩ := bind_eq_ok.mp created
  cases wasm with
  | none => cases created
  | some bytes =>
    obtain ⟨m, -, created⟩ := Registry.createOf_eq_ok.mp created
    obtain ⟨i, pool, -, rfl, -⟩ := Registry.createFrom_eq_ok.mp created
    exact r₀.freshHandle_ne_zero

theorem createInstance_eq_zero {wasm : Option (List UInt8)} {fuel : UInt64} :
    (p.createInstance t wasm fuel).1 = 0 ↔ p.failure (.create wasm fuel) ≠ none := by
  simp only [createInstance, failure]
  cases created : p.create wasm fuel with
  | ok result => simp [failureOf, create_ne_zero created]
  | error e => simp [failureOf]

theorem invoke_eq_false {h : Handle} {interface name : Option (List UInt8)}
    {slots : PointerArray} :
    (p.invoke t h interface name slots).1 = false ↔
      p.failure (.invoke h interface name slots) ≠ none := by
  simp only [invoke, failure]
  cases p.readTarget h interface name with
  | error e => simp [failureOf, bind, Except.bind]
  | ok target =>
    obtain ⟨i, n, r⟩ := target
    simp only [bind, Except.bind]
    generalize r.use h (callOn · i n slots) = result
    obtain ⟨answer, r'⟩ := result
    cases answer <;> simp [failureOf]

theorem takeError_none : p.takeError t none = (0, none, p) :=
  congrArg (fun p => (0, none, p)) setError_errors

theorem takeError_some {old : List UInt8} :
    p.takeError t (some old) = (min old.length (p.pendingLength t),
      some (((p.errors t).getD []).take (min old.length (p.pendingLength t)) ++
        old.drop (min old.length (p.pendingLength t))), p.setError t none) := by
  have written : ((p.errors t).getD []).take old.length =
      ((p.errors t).getD []).take (min old.length (p.pendingLength t)) := List.take_eq_take_min
  have count : (((p.errors t).getD []).take old.length).length =
      min old.length (p.pendingLength t) := List.length_take
  simp only [takeError, drainError, ErrorSlot.take, Option.map_some, count]
  rw [written]

theorem pendingLength_eq_zero
    (pending : ∀ m, p.errors t = some m → ∃ e, ErrorSlot.ofFailure e = some m) :
    p.pendingLength t = 0 ↔ p.errors t = none := by
  unfold pendingLength ErrorSlot.length
  cases slot : p.errors t with
  | none => simp
  | some m =>
    obtain ⟨e, same⟩ := pending m slot
    obtain rfl := Option.some.inj same
    simp

/-- What the threads find in their slots after a run, and what calls do to them then. -/
structure Channel (log : List Event) (p : Embedding) : Prop where
  pending : ∀ t m, p.errors t = some m ↔ ∃ e, Pending log t e ∧ ErrorSlot.ofFailure e = some m
  fails : ∀ t c e, p.failure c = some e → (p.step t c).errors t = .ofFailure e
  keeps : ∀ t u c, u ≠ t ∨ p.failure c = none ∧ c.clears = false →
    (p.step u c).errors t = p.errors t
  destroyNull : ∀ t, p.destroyInstance t 0 = p
  create : ∀ t wasm fuel,
    (p.createInstance t wasm fuel).1 = 0 ↔ p.failure (.create wasm fuel) ≠ none
  invoke : ∀ t h interface name slots, (p.invoke t h interface name slots).1 = false ↔
    p.failure (.invoke h interface name slots) ≠ none
  length : ∀ t, p.pendingLength t = (p.errors t).elim 0 List.length
  lengthZero : ∀ t, p.pendingLength t = 0 ↔ p.errors t = none
  take : ∀ t old written, written = min old.length (p.pendingLength t) →
    p.takeError t (some old) = (written,
      some (((p.errors t).getD []).take written ++ old.drop written), p.setError t none)
  takeNull : ∀ t, p.takeError t none = (0, none, p)

theorem errorChannel [Runtime] (read : Files.Reader) (path : Option String)
    (calls : List (Thread × Call)) :
    Channel ((start read path).trace calls) ((start read path).after calls) := by
  have pending := pending_run (start read path) rfl calls
  generalize (start read path).trace calls = log at pending
  generalize (start read path).after calls = p at pending
  -- The log accounts for the slots, so the rest is what single calls do to them.
  refine
    { pending := pending
      fails := fun t c e fails => ?_
      keeps := fun t u c keeps => ?_
      destroyNull := fun t => if_pos rfl
      create := fun _ _ _ => createInstance_eq_zero
      invoke := fun _ _ _ _ _ => invoke_eq_false
      length := fun t => ?_
      lengthZero := fun t => ?_
      take := fun t old _ same => same ▸ takeError_some
      takeNull := fun t => takeError_none }
  · rw [errors_step, errors_setError, if_pos rfl, slotAfter, fails]
  · rw [errors_step, errors_setError]
    split
    · rename_i here
      subst here
      rcases keeps with other | ⟨succeeds, keeps⟩
      · exact absurd rfl other
      · rw [slotAfter, succeeds, keeps]
        rfl
    · rfl
  · unfold pendingLength ErrorSlot.length
    cases p.errors t <;> rfl
  · refine pendingLength_eq_zero fun m slot => ?_
    obtain ⟨e, -, same⟩ := (pending t m).mp slot
    exact ⟨e, same⟩

end ModuleHost.Boundary.Embedding
