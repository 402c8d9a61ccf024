import Mathlib.Tactic
import ModuleHost.Proofs.Instance.Dispatch
import ModuleHost.Proofs.Registry.Basic

namespace ModuleHost.Registry

open Wasm (Slot CallExit)

section

variable (r : Registry) (h : Handle) (interface : Option String) (name : String)
  (args : List Value)

/-- What keeps a call from reaching a function, and first of all that the handle names nothing. -/
inductive Refusal : Failure → Prop
  | invalidHandle (dead : r.contains h = false) : Refusal (.invalidHandle h)
  | dispatch {i : Instance} {e : Failure} (live : r.get? h = some i)
    (refusal : i.Refusal (qualify interface name) args e) : Refusal e

/-- A call that was refused before any function ran, whatever functions do. -/
structure Refused (e : Failure) : Prop where
  group : e.group = some .dispatch
  refusal : r.Refusal h interface name args e
  notEntered : ∀ enter : Instance → Nat → List Slot → CallExit,
    r.use h (fun i => i.callWith (enter i) interface name args) = (.error e, r)
  unchanged : (r.call h interface name args).2 = r

/-- A call that entered a function, which stopped. -/
structure Stopped (e : Failure) : Prop where
  group : e.group = some .trap
  entered : ∃ i f s reason store,
    r.get? h = some i ∧ i.resolve (qualify interface name) = .ok (f, s) ∧
      args.map Value.kind = s.params ∧ i.enter f (args.map Value.bits) = .stop reason store ∧
      (reason = .trap .outOfFuel ∧ e = .fuelExhausted ∨
        reason ≠ .trap .outOfFuel ∧ ∃ message code, e = .trap message code) ∧
      (r.call h interface name args).2 = r.set h { i with store }
  others : ∀ j, j ≠ h → (r.call h interface name args).2.get? j = r.get? j
  live : (r.call h interface name args).2.contains h = true
  sameHandles : r.SameHandles (r.call h interface name args).2
  callable : ∀ interface' name' args' e',
    (r.call h interface name args).2.Refusal h interface' name' args' e' ↔
      r.Refusal h interface' name' args' e'

end

variable {r : Registry} {h : Handle} {interface : Option String} {name : String}
  {args : List Value} {e : Failure}

theorem Refusal.group (refusal : r.Refusal h interface name args e) :
    e.group = some .dispatch := by
  cases refusal with
  | invalidHandle => rfl
  | dispatch _ refusal => exact refusal.group

theorem use_of_refusal (refusal : r.Refusal h interface name args e)
    (enter : Instance → Nat → List Slot → CallExit) :
    r.use h (fun i => i.callWith (enter i) interface name args) = (.error e, r) := by
  cases refusal with
  | invalidHandle dead => exact use_of_dead (contains_eq_false.mp dead)
  | dispatch live refusal =>
    rw [use_of_live live, Instance.callWith_of_refusal refusal, set_of_get? live]

theorem refused_of_refusal (refusal : r.Refusal h interface name args e) :
    r.Refused h interface name args e where
  group := refusal.group
  refusal := refusal
  notEntered := use_of_refusal refusal
  unchanged := congrArg Prod.snd (use_of_refusal refusal Instance.enter)

theorem refusal_set_store {i : Instance} (live : r.get? h = some i) (store : Wasm.Store) :
    (r.set h { i with store }).Refusal h interface name args e ↔
      r.Refusal h interface name args e := by
  have live' : (r.set h { i with store }).get? h = some { i with store } := by
    rw [get?_set, if_pos rfl]
  constructor
  · intro refusal
    cases refusal with
    | invalidHandle dead => simp [contains_eq_false, live'] at dead
    | dispatch found refusal =>
      obtain rfl := Option.some.inj (live'.symm.trans found)
      exact .dispatch live (refusal.set_store i.store)
  · intro refusal
    cases refusal with
    | invalidHandle dead => simp [contains_eq_false, live] at dead
    | dispatch found refusal =>
      obtain rfl := Option.some.inj (live.symm.trans found)
      exact .dispatch live' (refusal.set_store store)

theorem stopped_of_stop {i : Instance} {f : Nat} {s : Signature} {reason : Wasm.Stop}
    {store : Wasm.Store} (live : r.get? h = some i)
    (resolves : i.resolve (qualify interface name) = .ok (f, s))
    (accepts : args.map Value.kind = s.params)
    (stops : i.enter f (args.map Value.bits) = .stop reason store)
    (after : (r.call h interface name args).2 = r.set h { i with store }) :
    r.Stopped h interface name args (i.faultOf f reason).toCallFailure where
  group := GuestFault.group_toCallFailure _
  entered := by
    refine ⟨i, f, s, reason, store, live, resolves, accepts, stops, ?_, after⟩
    have told := (i.faultOf f reason).toCallFailure_cases
    rw [Instance.cause_faultOf] at told
    exact told.imp And.symm And.symm
  others := by
    intro j other
    rw [after, get?_set, if_neg other]
  live := by
    rw [after, contains_iff]
    exact ⟨_, (get?_set ..).trans (if_pos rfl)⟩
  sameHandles := by
    rw [after]
    exact sameHandles_set (contains_iff.mpr ⟨i, live⟩) _
  callable := by
    intro interface' name' args' e'
    rw [after]
    exact refusal_set_store live store

theorem refused_or_stopped (fails : (r.call h interface name args).1 = .error e) :
    r.Refused h interface name args e ∨ r.Stopped h interface name args e := by
  cases live : r.get? h with
  | none =>
    rw [call, use_of_dead live] at fails
    cases fails
    exact .inl (refused_of_refusal (.invalidHandle (contains_eq_false.mpr live)))
  | some i =>
    have after : r.call h interface name args =
        ((i.call interface name args).1, r.set h (i.call interface name args).2) :=
      use_of_live live
    rw [after] at fails
    rcases Instance.refused_or_stopped_of_call fails with
      ⟨refusal, -⟩ | ⟨f, s, reason, store, resolves, accepts, stops, rfl, stopped⟩
    · exact .inl (refused_of_refusal (.dispatch live refusal))
    · rw [stopped] at after
      exact .inr (stopped_of_stop live resolves accepts stops (congrArg Prod.snd after))

theorem call_failure (fails : (r.call h interface name args).1 = .error e) :
    Xor (r.Refused h interface name args e) (r.Stopped h interface name args e) := by
  have apart : r.Refused h interface name args e → ¬ r.Stopped h interface name args e := by
    intro refused stopped
    have groups := refused.group.symm.trans stopped.group
    cases groups
  rcases refused_or_stopped fails with refused | stopped
  · exact .inl ⟨refused, apart refused⟩
  · exact .inr ⟨stopped, fun refused => apart refused stopped⟩

theorem call_failure_stopping : ∃ r₀ h r e,
    create {} = .ok r₀ ∧ r₀.createFrom stopping none = .ok (h, r) ∧
      (r.call h none "run" []).1 = .error e ∧
      Xor (r.Refused h none "run" [] e) (r.Stopped h none "run" [] e) := by
  let t := Wasm.Trap.unreachableCodeReached
  refine ⟨_, _, _, .trap t.message (some t.code), rfl, rfl, rfl, ?_⟩
  exact call_failure rfl

end ModuleHost.Registry
