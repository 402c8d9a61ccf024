import ModuleHost.Proofs.Instance.Fuel
import ModuleHost.Proofs.Instance.Metering

namespace ModuleHost.Instance

open Wasm (Slot Stop Trap Func Instr)

variable {i : Instance} {interface interface' : Option String} {name f g : String}
  {args results : List Value}

/-- The answer of a call that a limit of the host ended: on fuel or on the guest's stack. -/
def EndedByLimit (answer : Except Failure (List Value)) : Prop :=
  answer = .error .fuelExhausted ∨
    answer = .error (.trap Trap.stackOverflow.message (some Trap.stackOverflow.code))

theorem endedByLimit_of_isLimit {reason : Stop} (limit : reason.IsLimit) :
    EndedByLimit (.error (GuestFault.inGuest reason).toCallFailure) := by
  rcases limit with rfl | rfl
  · exact .inl rfl
  · exact .inr rfl

/-- An exported function passes its parameters to another one, which has as many and no results, and
then executes `unreachable`. -/
structure Forwards (i : Instance) (f g : String) (a b : Nat) : Prop where
  exported : i.exports.lookup f = some (.func a)
  exported' : i.exports.lookup g = some (.func b)
  params : (i.program.funcType a).params = (i.program.funcType b).params
  results : (i.program.funcType b).results = []
  body : ∃ func rest, i.Defines a func ∧
    func.body = Wasm.forwardTo b (i.program.funcType b).params.length rest

theorem Forwards.signature {a b : Nat} {s : Signature} (forwards : i.Forwards f g a b)
    (numbers : ∀ t ∈ (i.program.funcType a).results, t.isReference = false)
    (typed : Signature.ofFuncType (i.program.funcType b) = .ok s) :
    ∃ results, Signature.ofFuncType (i.program.funcType a) = .ok ⟨s.params, results⟩ := by
  have kinds := (Signature.ofFuncType_eq_ok.mp typed).1
  rw [← forwards.params] at kinds
  cases typed' : Signature.ofFuncType (i.program.funcType a) with
  | ok s' =>
    have kinds' := (Signature.ofFuncType_eq_ok.mp typed').1
    rw [kinds] at kinds'
    have same : s.params = s'.params := List.map_injective_iff.mpr (Option.some_injective _) kinds'
    exact ⟨s'.results, congrArg Except.ok (same ▸ rfl)⟩
  | error t =>
    have first := Signature.ofFuncType_eq_error.mp typed'
    have reference : t.isReference = true := List.find?_some first
    rcases List.mem_append.mp (List.mem_of_find?_eq_some first) with param | result
    · have kind : Value.Kind.ofType t ∈ s.params.map some := kinds ▸ List.mem_map_of_mem param
      rw [Wasm.ValType.ofType_eq_none.mpr reference] at kind
      simp at kind
    · rw [numbers t result] at reference
      cases reference

theorem call_forwards {a b : Nat}
    (forwards : i.Forwards (qualify interface f) (qualify interface' g) a b)
    (numbers : ∀ t ∈ (i.program.funcType a).results, t.isReference = false)
    (works : (i.call interface' g args).1 = .ok results) :
    EndedByLimit (i.call interface f args).1 ∨
      i.call interface f args =
        (.error (.trap Trap.unreachableCodeReached.message (some Trap.unreachableCodeReached.code)),
          (i.call interface' g args).2.late i.program.budget (args.length + 2)) := by
  obtain ⟨b', s, slots, store, resolves, accepts, returns, rfl, after⟩ := returned_of_call works
  obtain ⟨exported, typed⟩ := resolve_eq_ok.mp resolves
  cases exported.symm.trans forwards.exported'
  obtain ⟨results, typed'⟩ := forwards.signature numbers typed
  obtain ⟨func, rest, defines, body⟩ := forwards.body
  have resolves' := resolve_eq_ok.mpr ⟨forwards.exported, typed'⟩
  have called : i.program.call b (args.map Value.bits) i.store = .done slots store := by
    unfold enter at returns
    split at returns
    · cases returns
    · exact returns
  have count : (i.program.funcType b).params.length = (args.map Value.bits).length := by
    have kinds := congrArg List.length (Signature.ofFuncType_eq_ok.mp typed).1
    have accepted := congrArg List.length accepts
    simp only [List.length_map] at kinds accepted ⊢
    exact kinds.trans accepted.symm
  have trapped (reason : Stop) (s' : Wasm.Store)
      (stops : i.program.call a (args.map Value.bits) i.store = .stop reason s') :
      i.call interface f args =
        (.error (GuestFault.inGuest reason).toCallFailure, { i with store := s' }) := by
    rw [← enter_of_defines defines] at stops
    rw [call, callWith_of_stop resolves' accepts stops, faultOf, defines.isHostFunction]
    rfl
  rw [count] at body
  -- As a callee, `b` is entered with less fuel than from outside, and one call deeper.
  rcases Wasm.callLaws.forwards defines.guest defines.found body count called with
    ⟨reason, s', stops, limit⟩ | stops
  · left
    rw [trapped reason s' stops]
    exact endedByLimit_of_isLimit limit
  · right
    rw [trapped _ _ stops, after, List.length_map]
    rfl

theorem toCallFailure_of_trap {layers : List String} {t : Trap} (other : t ≠ .outOfFuel) :
    (⟨layers, .trap t⟩ : GuestFault).toCallFailure = .trap t.message (some t.code) := by
  cases t with
  | outOfFuel => exact absurd rfl other
  | _ => rfl

theorem trap_of_toCallFailure {fault : GuestFault} {message code : String}
    (told : fault.toCallFailure = .trap message (some code)) :
    ∃ t : Trap, t ≠ .outOfFuel ∧ fault.cause = .trap t ∧ message = t.message ∧ code = t.code := by
  obtain ⟨layers, cause⟩ := fault
  cases cause with
  | trap t =>
    have other : t ≠ .outOfFuel := by
      rintro rfl
      cases told
    rw [toCallFailure_of_trap other] at told
    cases told
    exact ⟨t, other, rfl, rfl, rfl⟩
  | host | stuck => cases told

theorem trapsWith_of_call {message code : String}
    (fails : (i.call interface name args).1 = .error (.trap message (some code))) :
    ∃ n signature t s told, i.resolve (qualify interface name) = .ok (n, signature) ∧
      message = Trap.message t ∧ code = Trap.code t ∧
      i.program.TrapsWith n (args.map Value.bits) i.store t s ∧
      (i.call interface name args).2 = { i with store := s.withFuel told } := by
  rcases refused_or_stopped_of_call fails with
    ⟨refusal, -⟩ | ⟨n, signature, reason, store, resolves, -, stops, told, after⟩
  · cases refusal
  · obtain ⟨t, other, cause, rfl, rfl⟩ := trap_of_toCallFailure told.symm
    rw [cause_faultOf] at cause
    rw [cause] at stops
    unfold enter at stops
    split at stops
    · cases stops
    · obtain ⟨s, told, traps, rfl⟩ := Wasm.callLaws.trapsWith stops other
      exact ⟨n, signature, t, s, told, resolves, rfl, rfl, traps, after⟩

theorem readBytes_eq_ok {offset length : Nat} {bytes : List UInt8} :
    i.readBytes offset length = .ok bytes ↔
      ∃ m, i.memoryIndex = .ok m ∧ (i.store.memory m).contains offset length = true ∧
        bytes = (i.store.memory m).read offset length := by
  simp only [readBytes, memoryWith, map_eq_ok, bind_eq_ok]
  constructor
  · rintro ⟨m, ⟨m', finds, inside⟩, rfl⟩
    split at inside <;> cases inside
    exact ⟨m, finds, ‹_›, rfl⟩
  · rintro ⟨m, finds, inside, rfl⟩
    exact ⟨m, ⟨m, finds, if_pos inside⟩, rfl⟩

/-- An exported function returns what it loads from the address that it is given. -/
structure Loads (i : Instance) (name : String) (f : Nat) (kind : Value.Kind) (type : Wasm.ValType)
    (count : Nat) (signed : Bool) (arg : Wasm.MemArg) : Prop where
  exported : i.exports.lookup name = some (.func f)
  typed : i.program.funcType f = ⟨[.i32], [type]⟩
  number : Value.Kind.ofType type = some kind
  body : ∃ func, i.Defines f func ∧
    func.body = [.op (.var (.localGet 0)), .op (.memory (.load type count signed arg))]

theorem Loads.set_store {n count : Nat} {kind : Value.Kind} {type : Wasm.ValType} {signed : Bool}
    {arg : Wasm.MemArg} (loads : i.Loads name n kind type count signed arg) (store : Wasm.Store) :
    Loads { i with store } name n kind type count signed arg := by
  obtain ⟨func, defines, body⟩ := loads.body
  exact ⟨loads.exported, loads.typed, loads.number, func, ⟨defines.guest, defines.found⟩, body⟩

theorem call_loads {n count : Nat} {kind : Value.Kind} {type : Wasm.ValType} {signed : Bool}
    {arg : Wasm.MemArg} {a : Int32}
    (loads : i.Loads (qualify interface name) n kind type count signed arg)
    (inside : (i.store.memory arg.memory).contains (a.toUInt32.toNat + arg.offset) count = true) :
    EndedByLimit (i.call interface name [.i32 a]).1 ∨
      (i.call interface name [.i32 a]).1 = .ok [.ofBits kind (Wasm.loaded type count signed
        ((i.store.memory arg.memory).readNat (a.toUInt32.toNat + arg.offset) count))] := by
  obtain ⟨func, defines, body⟩ := loads.body
  have typed : Signature.ofFuncType (i.program.funcType n) = .ok ⟨[.i32], [kind]⟩ := by
    rw [loads.typed, Signature.ofFuncType_eq_ok]
    exact ⟨rfl, congrArg (fun k => [k]) loads.number⟩
  have resolves : i.resolve (qualify interface name) = .ok (n, ⟨[.i32], [kind]⟩) :=
    resolve_eq_ok.mpr ⟨loads.exported, typed⟩
  have accepts : [Value.i32 a].map Value.kind = [.i32] := rfl
  have results : (i.program.funcType n).results = [type] := by rw [loads.typed]
  rcases Wasm.callLaws.loads defines.guest defines.found body results inside with
    ⟨reason, s, stops, limit⟩ | ⟨s, returns⟩
  · left
    rw [← enter_of_defines defines] at stops
    have answer := callWith_of_stop resolves accepts stops
    rw [call, answer, faultOf, defines.isHostFunction]
    exact endedByLimit_of_isLimit limit
  · right
    rw [← enter_of_defines defines] at returns
    have answer := callWith_of_done resolves accepts returns
    rw [call, answer]
    rfl

end ModuleHost.Instance
