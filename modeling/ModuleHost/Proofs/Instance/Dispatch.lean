import Mathlib.Tactic
import ModuleHost.Instance.Basic
import ModuleHost.Proofs.Except
import ModuleHost.Proofs.Signature
import ModuleHost.Proofs.Value.Bytes
import ModuleHost.Proofs.Wasm.Laws

namespace ModuleHost

namespace Wasm.ValType

theorem ofType_eq_none {t : ValType} : Value.Kind.ofType t = none ↔ t.isReference = true := by
  cases t <;> simp [Value.Kind.ofType, isReference]

end Wasm.ValType

namespace Signature

open Wasm.ValType (isReference ofType_eq_none)

theorem kindsOf_eq_ok {types : List Wasm.ValType} {kinds : List Value.Kind} :
    kindsOf types = .ok kinds ↔ types.map Value.Kind.ofType = kinds.map some := by
  induction types generalizing kinds with
  | nil => cases kinds <;> simp [kindsOf]
  | cons t ts ih =>
    cases kind : Value.Kind.ofType t with
    | none => cases kinds <;> simp [kindsOf, kind]
    | some k =>
      cases kinds with
      | nil => simp [kindsOf, kind, map_eq_ok]
      | cons k' ks => simp [kindsOf, kind, map_eq_ok, ih, and_comm]

theorem kindsOf_eq_error {types : List Wasm.ValType} {t : Wasm.ValType} :
    kindsOf types = .error t ↔ types.find? isReference = some t := by
  induction types with
  | nil => simp [kindsOf]
  | cons u ts ih =>
    cases kind : Value.Kind.ofType u with
    | none => simp [kindsOf, kind, ofType_eq_none.mp kind]
    | some k =>
      have number : isReference u = false := by
        rw [← Bool.not_eq_true, ← ofType_eq_none, kind]
        nofun
      simp [kindsOf, kind, map_eq_error, ih, number]

theorem ofFuncType_eq_ok {type : Wasm.FuncType} {s : Signature} :
    ofFuncType type = .ok s ↔
      type.params.map Value.Kind.ofType = s.params.map some ∧
        type.results.map Value.Kind.ofType = s.results.map some := by
  simp only [ofFuncType, bind_eq_ok, kindsOf_eq_ok]
  constructor
  · rintro ⟨params, hp, results, hr, same⟩
    cases same
    exact ⟨hp, hr⟩
  · exact fun ⟨hp, hr⟩ => ⟨_, hp, _, hr, rfl⟩

theorem ofFuncType_eq_error {type : Wasm.FuncType} {t : Wasm.ValType} :
    ofFuncType type = .error t ↔ (type.params ++ type.results).find? isReference = some t := by
  simp only [List.find?_append, ofFuncType, bind_eq_error, kindsOf_eq_error]
  cases params : type.params.find? isReference with
  | some u =>
    have fails := kindsOf_eq_error.mpr params
    simp [fails]
  | none =>
    obtain ⟨ks, ok⟩ : ∃ ks, kindsOf type.params = .ok ks := by
      cases kinds : kindsOf type.params with
      | error u => simp [kindsOf_eq_error.mp kinds] at params
      | ok ks => exact ⟨ks, rfl⟩
    simp [ok, pure, Except.pure]

theorem collectResults_eq_ok {name : String} {types : List Wasm.ValType} {kinds : List Value.Kind}
    {results : List Nat} (typed : types.map Value.Kind.ofType = kinds.map some) :
    collectResults name types results = .ok (List.zipWith Value.ofBits kinds results) := by
  induction types generalizing kinds results with
  | nil =>
    obtain rfl : kinds = [] := by simpa using typed.symm
    simp [collectResults]
  | cons t ts ih =>
    cases kinds with
    | nil => simp at typed
    | cons k ks =>
      obtain ⟨kind, typed⟩ := List.cons.inj typed
      cases results with
      | nil => simp [collectResults]
      | cons bits rest => simp [collectResults, Value.ofOperand, kind, ih typed, Except.map]

end Signature

namespace Instance

open Wasm (Slot CallExit)

variable {i : Instance} {interface : Option String} {name : String} {args : List Value}

theorem resolve_eq_ok {f : Nat} {s : Signature} :
    i.resolve name = .ok (f, s) ↔
      i.exports.lookup name = some (.func f) ∧
        Signature.ofFuncType (i.program.funcType f) = .ok s := by
  unfold resolve
  cases i.exports.lookup name with
  | none => simp
  | some target =>
    cases target with
    | func g =>
      simp only [map_eq_ok, Signature.ofExport, mapError_eq_ok, Prod.mk.injEq, Option.some.injEq,
        Wasm.ExportTarget.func.injEq]
      constructor
      · rintro ⟨s, typed, rfl, rfl⟩
        exact ⟨rfl, typed⟩
      · rintro ⟨rfl, typed⟩
        exact ⟨s, typed, rfl, rfl⟩
    | table | memory | global => simp

theorem signature_eq_ok {s : Signature} :
    i.signature interface name = .ok s ↔ ∃ f, i.resolve (qualify interface name) = .ok (f, s) := by
  simp [signature, map_eq_ok]

/-- What keeps a call from reaching the function. Each obstacle is there only without those before
it. -/
inductive Refusal (i : Instance) (name : String) (args : List Value) : Failure → Prop
  | exportNotFound (absent : i.exports.lookup name = none) :
    Refusal i name args (.exportNotFound name)
  | notAFunction {target : Wasm.ExportTarget} (found : i.exports.lookup name = some target)
    (other : ∀ f, target ≠ .func f) :
    Refusal i name args (.notAFunction name target.kind)
  | unsupportedType {f : Nat} {t : Wasm.ValType} (found : i.exports.lookup name = some (.func f))
    (first : ((i.program.funcType f).params ++ (i.program.funcType f).results).find?
      Wasm.ValType.isReference = some t) :
    Refusal i name args (.unsupportedType name t.text)
  | signatureMismatch {f : Nat} {s : Signature} (found : i.exports.lookup name = some (.func f))
    (typed : Signature.ofFuncType (i.program.funcType f) = .ok s)
    (differ : args.map Value.kind ≠ s.params) :
    Refusal i name args (.signatureMismatch name (Value.Kind.joinNames s.params)
      (Value.Kind.joinNames (args.map Value.kind)))

theorem refusal_of_resolve {e : Failure} (fails : i.resolve name = .error e) :
    i.Refusal name args e := by
  unfold resolve at fails
  cases found : i.exports.lookup name with
  | none =>
    simp only [found, Except.error.injEq] at fails
    exact fails ▸ .exportNotFound found
  | some target =>
    cases target with
    | func f =>
      simp only [found, map_eq_error, Signature.ofExport, mapError_eq_error] at fails
      obtain ⟨t, reference, rfl⟩ := fails
      exact .unsupportedType found (Signature.ofFuncType_eq_error.mp reference)
    | table | memory | global =>
      simp only [found, Except.error.injEq] at fails
      exact fails ▸ .notAFunction found nofun

inductive Outcome (i : Instance) (enter : Nat → List Slot → CallExit) (name : String)
    (args : List Value) : Except Failure (List Value) × Instance → Prop
  | refused {e : Failure} (refusal : i.Refusal name args e) :
    Outcome i enter name args (.error e, i)
  | stopped {f : Nat} {s : Signature} {reason : Wasm.Stop} {store : Wasm.Store}
    (resolves : i.resolve name = .ok (f, s)) (accepts : args.map Value.kind = s.params)
    (stops : enter f (args.map Value.bits) = .stop reason store) :
    Outcome i enter name args (.error (i.faultOf f reason).toCallFailure, { i with store })
  | returned {f : Nat} {s : Signature} {results : List Slot} {store : Wasm.Store}
    (resolves : i.resolve name = .ok (f, s)) (accepts : args.map Value.kind = s.params)
    (returns : enter f (args.map Value.bits) = .done results store) :
    Outcome i enter name args (.ok (List.zipWith Value.ofBits s.results results), { i with store })

theorem outcome_callWith (enter : Nat → List Slot → CallExit) :
    i.Outcome enter (qualify interface name) args (i.callWith enter interface name args) := by
  simp only [callWith]
  generalize qualify interface name = name
  cases resolves : i.resolve name with
  | error e => exact .refused (refusal_of_resolve resolves)
  | ok target =>
    obtain ⟨f, s⟩ := target
    have typed := (resolve_eq_ok.mp resolves).2
    by_cases accepts : args.map Value.kind = s.params
    · have passes : s.requireArgs name args = .ok () := Signature.requireArgs_eq_ok.mpr accepts
      simp only [passes]
      cases run : enter f (args.map Value.bits) with
      | stop reason store => exact .stopped resolves accepts run
      | done results store =>
        simp only [Signature.collectResults_eq_ok (Signature.ofFuncType_eq_ok.mp typed).2]
        exact .returned resolves accepts run
    · simp only [Signature.requireArgs_eq_error.mpr ⟨accepts, rfl⟩]
      exact .refused (.signatureMismatch (resolve_eq_ok.mp resolves).1 typed accepts)

theorem outcome_call :
    i.Outcome i.enter (qualify interface name) args (i.call interface name args) :=
  outcome_callWith i.enter

/-- A call leaves the instance alone or as its run of the function left it. -/
theorem after_call {P : Instance → Prop} (kept : P i)
    (entered : ∀ f s, i.resolve (qualify interface name) = .ok (f, s) →
      args.map Value.kind = s.params →
      (i.enter f (args.map Value.bits)).All (fun store => P { i with store }) fun _ store =>
        P { i with store }) :
    P (i.call interface name args).2 := by
  have outcome : i.Outcome i.enter (qualify interface name) args (i.call interface name args) :=
    outcome_call
  generalize i.call interface name args = result at outcome
  cases outcome with
  | refused => exact kept
  | stopped resolves accepts stops =>
    have ended := entered _ _ resolves accepts
    rwa [stops] at ended
  | returned resolves accepts returns =>
    have ended := entered _ _ resolves accepts
    rwa [returns] at ended

theorem returned_of_call {results : List Value}
    (answers : (i.call interface name args).1 = .ok results) :
    ∃ f s slots store, i.resolve (qualify interface name) = .ok (f, s) ∧
      args.map Value.kind = s.params ∧ i.enter f (args.map Value.bits) = .done slots store ∧
      results = List.zipWith Value.ofBits s.results slots ∧
      (i.call interface name args).2 = { i with store } := by
  have outcome : i.Outcome i.enter (qualify interface name) args (i.call interface name args) :=
    outcome_call
  generalize i.call interface name args = result at outcome answers
  cases outcome with
  | refused | stopped => cases answers
  | returned resolves accepts returns =>
    cases answers
    exact ⟨_, _, _, _, resolves, accepts, returns, rfl, rfl⟩

theorem refused_or_stopped_of_call {e : Failure}
    (fails : (i.call interface name args).1 = .error e) :
    (i.Refusal (qualify interface name) args e ∧ (i.call interface name args).2 = i) ∨
      ∃ f s reason store, i.resolve (qualify interface name) = .ok (f, s) ∧
        args.map Value.kind = s.params ∧
        i.enter f (args.map Value.bits) = .stop reason store ∧
        e = (i.faultOf f reason).toCallFailure ∧
        (i.call interface name args).2 = { i with store } := by
  have outcome : i.Outcome i.enter (qualify interface name) args (i.call interface name args) :=
    outcome_call
  generalize i.call interface name args = result at outcome fails
  cases outcome with
  | refused refusal =>
    cases fails
    exact .inl ⟨refusal, rfl⟩
  | stopped resolves accepts stops =>
    cases fails
    exact .inr ⟨_, _, _, _, resolves, accepts, stops, rfl, rfl⟩
  | returned => cases fails

theorem callWith_of_refusal {e : Failure} (refusal : i.Refusal (qualify interface name) args e)
    (enter : Nat → List Slot → CallExit) :
    i.callWith enter interface name args = (.error e, i) := by
  simp only [callWith]
  generalize qualify interface name = name at refusal
  cases refusal with
  | exportNotFound absent => simp [resolve, absent]
  | @notAFunction target found other =>
    cases target with
    | func f => exact absurd rfl (other f)
    | table | memory | global => simp [resolve, found]
  | unsupportedType found first =>
    have fails := Signature.ofFuncType_eq_error.mpr first
    simp [resolve, found, Signature.ofExport, fails, Except.map]
  | signatureMismatch found typed differ =>
    rw [resolve_eq_ok.mpr ⟨found, typed⟩]
    simp [Signature.requireArgs_eq_error.mpr ⟨differ, rfl⟩]

theorem call_of_unresolved {e : Failure} (fails : i.resolve (qualify interface name) = .error e)
    (args : List Value) : i.call interface name args = (.error e, i) :=
  callWith_of_refusal (refusal_of_resolve fails) i.enter

theorem call_of_untyped {e : Failure} (untyped : i.signature interface name = .error e)
    (args : List Value) : i.call interface name args = (.error e, i) :=
  call_of_unresolved (map_eq_error.mp untyped) args

section Entered

variable {enter : Nat → List Slot → CallExit} {f : Nat} {s : Signature} {store : Wasm.Store}
  (resolves : i.resolve (qualify interface name) = .ok (f, s))
  (accepts : args.map Value.kind = s.params)

include resolves accepts

theorem callWith_of_stop {reason : Wasm.Stop}
    (stops : enter f (args.map Value.bits) = .stop reason store) :
    i.callWith enter interface name args =
      (.error (i.faultOf f reason).toCallFailure, { i with store }) := by
  have passes : s.requireArgs (qualify interface name) args = .ok () :=
    Signature.requireArgs_eq_ok.mpr accepts
  simp only [callWith, resolves, passes, stops]

theorem callWith_of_done {results : List Slot}
    (returns : enter f (args.map Value.bits) = .done results store) :
    i.callWith enter interface name args =
      (.ok (List.zipWith Value.ofBits s.results results), { i with store }) := by
  have passes : s.requireArgs (qualify interface name) args = .ok () :=
    Signature.requireArgs_eq_ok.mpr accepts
  have typed := (Signature.ofFuncType_eq_ok.mp (resolve_eq_ok.mp resolves).2).2
  simp only [callWith, resolves, passes, returns, Signature.collectResults_eq_ok typed]

end Entered

theorem Refusal.set_store {e : Failure} (refusal : i.Refusal name args e) (store : Wasm.Store) :
    Refusal { i with store } name args e := by
  cases refusal with
  | exportNotFound absent => exact .exportNotFound absent
  | notAFunction found other => exact .notAFunction found other
  | unsupportedType found first => exact .unsupportedType found first
  | signatureMismatch found typed differ => exact .signatureMismatch found typed differ

theorem Refusal.group {e : Failure} (refusal : i.Refusal name args e) :
    e.group = some .dispatch := by
  cases refusal <;> rfl

end Instance

namespace GuestFault

theorem toCallFailure_cases (fault : GuestFault) :
    (fault.toCallFailure = .fuelExhausted ∧ fault.cause = .trap .outOfFuel) ∨
      ((∃ message code, fault.toCallFailure = .trap message code) ∧
        fault.cause ≠ .trap .outOfFuel) := by
  obtain ⟨layers, cause⟩ := fault
  cases cause with
  | trap t => cases t <;> simp [toCallFailure]
  | host | stuck => simp [toCallFailure]

theorem group_toCallFailure (fault : GuestFault) : fault.toCallFailure.group = some .trap := by
  obtain ⟨fuel, -⟩ | ⟨⟨message, code, trap⟩, -⟩ := fault.toCallFailure_cases
  · rw [fuel]
    rfl
  · rw [trap]
    rfl

end GuestFault

namespace Instance

variable {i : Instance}

theorem cause_faultOf (f : Nat) (reason : Wasm.Stop) : (i.faultOf f reason).cause = reason := by
  unfold faultOf
  split <;> rfl

theorem refusal_or_trap_of_call {interface : Option String} {name : String} {args : List Value}
    {e : Failure} (fails : (i.call interface name args).1 = .error e) :
    (i.Refusal (qualify interface name) args e ∧ (i.call interface name args).2 = i) ∨
      e.group = some .trap := by
  rcases refused_or_stopped_of_call fails with refused | ⟨f, s, reason, store, -, -, -, rfl, -⟩
  · exact .inl refused
  · exact .inr (i.faultOf f reason).group_toCallFailure

theorem map_kind_zipWith {kinds : List Value.Kind} {bits : List Nat}
    (length : kinds.length = bits.length) :
    (List.zipWith Value.ofBits kinds bits).map Value.kind = kinds := by
  induction kinds generalizing bits with
  | nil => rfl
  | cons kind kinds ih =>
    cases bits with
    | nil => cases length
    | cons b bits =>
      rw [List.zipWith_cons_cons, List.map_cons, Value.kind_ofBits, ih (Nat.succ.inj length)]

theorem length_of_enter_done {f : Nat} {args results : List Wasm.Slot} {store : Wasm.Store}
    (returns : i.enter f args = .done results store) :
    results.length = (i.program.funcType f).results.length := by
  unfold enter at returns
  split at returns
  · cases returns
  · exact Wasm.callLaws.counts returns

theorem map_kind_of_call {interface : Option String} {name : String} {args results : List Value}
    {s : Signature} (typed : i.signature interface name = .ok s)
    (answers : (i.call interface name args).1 = .ok results) :
    results.map Value.kind = s.results := by
  obtain ⟨f, resolves⟩ := signature_eq_ok.mp typed
  obtain ⟨f', s', slots, store, resolves', -, returns, rfl, -⟩ := returned_of_call answers
  obtain ⟨rfl, rfl⟩ := Prod.mk.inj (Except.ok.inj (resolves.symm.trans resolves'))
  have kinds := (Signature.ofFuncType_eq_ok.mp (resolve_eq_ok.mp resolves).2).2
  have length := congrArg List.length kinds
  rw [List.length_map, List.length_map, ← length_of_enter_done returns] at length
  exact map_kind_zipWith length.symm

end Instance

end ModuleHost
