import Mathlib.Tactic
import ModuleHost.Proofs.List
import ModuleHost.Proofs.Registry.Basic
import ModuleHost.Proofs.Run

namespace ModuleHost.Registry

/-- An operation of a registry. Whoever uses an instance may change it. -/
inductive Op where
  | create (bytes : List UInt8) (fuel : Option UInt64)
  | createFrom (m : GuestModule) (fuel : Option UInt64)
  | destroy (h : Handle)
  | call (h : Handle) (interface : Option String) (name : String) (args : List Value)
  | signature (h : Handle) (interface : Option String) (name : String)
  | use (h : Handle) (change : Instance → Instance)
  | readBytes (h : Handle) (offset length : Nat)
  | writeBytes (h : Handle) (offset : Nat) (bytes : List UInt8)
  | fuelLeft (h : Handle)
  | fingerprint (h : Handle)
  | contains (h : Handle)
  | size
  | isEmpty

inductive Answer where
  | failure (e : Failure)
  | handle (h : Handle)
  | done
  | values (results : List Value)
  | signature (s : Signature)
  | bytes (bytes : List UInt8)
  | fuel (left : Option Nat)
  | text (text : String)
  | flag (b : Bool)
  | count (n : Nat)

def Answer.of {α : Type} (answer : α → Answer) : Except Failure α → Answer
  | .ok a => answer a
  | .error e => .failure e

/-- The answer of an operation, and the registry afterwards. A failed creation, destruction or write
leaves the registry as it was. -/
def step (r : Registry) : Op → Answer × Registry
  | .create bytes fuel =>
    match r.createOf bytes fuel with
    | .ok (h, r) => (.handle h, r)
    | .error e => (.failure e, r)
  | .createFrom m fuel =>
    match r.createFrom m fuel with
    | .ok (h, r) => (.handle h, r)
    | .error e => (.failure e, r)
  | .destroy h =>
    match r.destroy h with
    | .ok r => (.done, r)
    | .error e => (.failure e, r)
  | .call h interface name args =>
    let (answer, r) := r.call h interface name args
    (.of .values answer, r)
  | .signature h interface name => (.of .signature (r.signature h interface name), r)
  | .use h change =>
    let (answer, r) := r.use h fun i => (.ok (), change i)
    (.of (fun _ => .done) answer, r)
  | .readBytes h offset length => (.of .bytes (r.readBytes h offset length), r)
  | .writeBytes h offset bytes =>
    match r.writeBytes h offset bytes with
    | .ok r => (.done, r)
    | .error e => (.failure e, r)
  | .fuelLeft h => (.of .fuel (r.fuelLeft h), r)
  | .fingerprint h => (.of .text (r.fingerprint h), r)
  | .contains h => (.flag (r.contains h), r)
  | .size => (.count r.size, r)
  | .isEmpty => (.flag r.isEmpty, r)

abbrev Event := Op × Answer

namespace Event

def issued : Event → Option Handle
  | (.create .., .handle h) | (.createFrom .., .handle h) => some h
  | _ => none

def destroyed : Event → Option Handle
  | (.destroy h, .done) => some h
  | _ => none

end Event

def issuedBy (log : List Event) : List Handle :=
  log.filterMap Event.issued

def destroyedBy (log : List Event) : List Handle :=
  log.filterMap Event.destroyed

def Live (log : List Event) (h : Handle) : Prop :=
  ∃ before e since, log = before ++ e :: since ∧ e.issued = some h ∧ h ∉ destroyedBy since

def record (r : Registry) (op : Op) : Event × Registry :=
  ((op, (r.step op).1), (r.step op).2)

def trace (r : Registry) (ops : List Op) : List Event :=
  Run.trace record r ops

def after (r : Registry) (ops : List Op) : Registry :=
  Run.after record r ops

section Log

variable {log : List Event} {e : Event} {h : Handle}

theorem issuedBy_append_of_some (log : List Event) (issues : e.issued = some h) :
    issuedBy (log ++ [e]) = issuedBy log ++ [h] := by
  simp [issuedBy, issues]

theorem issuedBy_append_of_none (log : List Event) (issues : e.issued = none) :
    issuedBy (log ++ [e]) = issuedBy log := by
  simp [issuedBy, issues]

theorem destroyedBy_append_of_some (log : List Event) (destroys : e.destroyed = some h) :
    destroyedBy (log ++ [e]) = destroyedBy log ++ [h] := by
  simp [destroyedBy, destroys]

theorem destroyedBy_append_of_none (log : List Event) (destroys : e.destroyed = none) :
    destroyedBy (log ++ [e]) = destroyedBy log := by
  simp [destroyedBy, destroys]

theorem mem_destroyedBy_append :
    h ∈ destroyedBy (log ++ [e]) ↔ h ∈ destroyedBy log ∨ e.destroyed = some h := by
  cases destroys : e.destroyed with
  | none => simp [destroyedBy_append_of_none log destroys]
  | some j => simp [destroyedBy_append_of_some log destroys, eq_comm]

theorem not_live_nil : ¬ Live [] h := by
  rintro ⟨before, e, since, same, -⟩
  simp at same

theorem Live.mem_issuedBy (live : Live log h) : h ∈ issuedBy log := by
  obtain ⟨before, e, since, rfl, issues, -⟩ := live
  exact List.mem_filterMap.mpr ⟨e, by simp, issues⟩

theorem live_append_singleton :
    Live (log ++ [e]) h ↔ e.issued = some h ∨ Live log h ∧ e.destroyed ≠ some h := by
  have kept (since : List Event) :
      h ∉ destroyedBy (since ++ [e]) ↔ h ∉ destroyedBy since ∧ e.destroyed ≠ some h := by
    rw [mem_destroyedBy_append, not_or]
  simp only [Live, exists_split_append_singleton (P := fun e since =>
    e.issued = some h ∧ h ∉ destroyedBy since), kept]
  constructor
  · rintro (⟨issues, -⟩ | ⟨before, e', since, same, issues, kept, kept'⟩)
    · exact .inl issues
    · exact .inr ⟨⟨before, e', since, same, issues, kept⟩, kept'⟩
  · rintro (issues | ⟨⟨before, e', since, same, issues, kept⟩, kept'⟩)
    · exact .inl ⟨issues, nofun⟩
    · exact .inr ⟨before, e', since, same, issues, kept, kept'⟩

end Log

/-- What a step does to the handles, beside the event that it leaves. -/
inductive StepHandles (r : Registry) : Event → Registry → Prop
  | issue {e : Event} (i : Instance) (pool : Pool) (issues : e.issued = some r.freshHandle)
    (keeps : e.destroyed = none) : StepHandles r e (r.enroll i pool)
  | destroy {e : Event} {h : Handle} (pool : Pool) (live : r.contains h = true)
    (destroys : e.destroyed = some h) (issuesNone : e.issued = none) :
    StepHandles r e { r with instances := r.instances.erase h, pool := pool }
  | same {e : Event} {r' : Registry} (issuesNone : e.issued = none) (keeps : e.destroyed = none)
    (same : r.SameHandles r') : StepHandles r e r'

theorem stepHandles_record (r : Registry) (op : Op) :
    r.StepHandles (r.record op).1 (r.record op).2 := by
  unfold record
  cases op with
  | create bytes fuel =>
    simp only [step]
    cases created : r.createOf bytes fuel with
    | error e => exact .same rfl rfl (.refl r)
    | ok result =>
      obtain ⟨m, -, created⟩ := createOf_eq_ok.mp created
      obtain ⟨i, pool, -, fresh, enrolled⟩ := createFrom_eq_ok.mp created
      simp only [fresh, enrolled]
      exact .issue i pool rfl rfl
  | createFrom m fuel =>
    simp only [step]
    cases created : r.createFrom m fuel with
    | error e => exact .same rfl rfl (.refl r)
    | ok result =>
      obtain ⟨i, pool, -, fresh, enrolled⟩ := createFrom_eq_ok.mp created
      simp only [fresh, enrolled]
      exact .issue i pool rfl rfl
  | destroy h =>
    simp only [step]
    cases destroyed : r.destroy h with
    | error e => exact .same rfl rfl (.refl r)
    | ok r' =>
      obtain ⟨live, rfl⟩ := destroy_eq_ok.mp destroyed
      exact .destroy _ live rfl rfl
  | call h interface name args =>
    exact .same rfl rfl (sameHandles_use r h (·.call interface name args))
  | use h change => exact .same rfl rfl (sameHandles_use r h fun i => (.ok (), change i))
  | writeBytes h offset bytes =>
    simp only [step]
    cases writes : r.writeBytes h offset bytes with
    | error e => exact .same rfl rfl (.refl r)
    | ok r' => exact .same rfl rfl (sameHandles_writeBytes writes)
  | signature | readBytes | fuelLeft | fingerprint | contains | size | isEmpty =>
    exact .same rfl rfl (.refl r)

end ModuleHost.Registry
