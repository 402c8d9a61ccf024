import ModuleHost.Proofs.Instance.Dispatch
import ModuleHost.Proofs.Instance.Failures

namespace ModuleHost

namespace Instance

open Wasm (Slot)

variable {i : Instance} {f : Nat} {interface : Option String} {name : String} {args : List Value}

theorem enter_spends (i : Instance) (f : Nat) (args : List Slot) :
    (i.enter f args).All (fun s => i.store.fuelSpent ≤ s.fuelSpent) fun reason s =>
      i.store.fuelSpent ≤ s.fuelSpent ∧
        (reason = .trap .outOfFuel → i.program.isExhausted s.fuelSpent = true) := by
  unfold enter
  split
  · exact ⟨le_refl _, nofun⟩
  · exact Wasm.callLaws.spends i.program f args i.store

theorem call_spends (i : Instance) (interface : Option String) (name : String)
    (args : List Value) :
    ∃ store, (i.call interface name args).2 = { i with store } ∧
      i.store.fuelSpent ≤ store.fuelSpent ∧
      ((i.call interface name args).1 = .error .fuelExhausted →
        i.program.isExhausted store.fuelSpent = true) := by
  have outcome : i.Outcome i.enter (qualify interface name) args (i.call interface name args) :=
    outcome_call
  generalize i.call interface name args = result at outcome
  cases outcome with
  | refused refusal =>
    refine ⟨i.store, rfl, le_refl _, ?_⟩
    intro fails
    cases fails
    cases refusal
  | @stopped f s reason store resolves accepts stops =>
    have spends := i.enter_spends f (args.map Value.bits)
    rw [stops] at spends
    refine ⟨store, rfl, spends.1, ?_⟩
    intro fails
    have told := (i.faultOf f reason).toCallFailure_cases
    rw [cause_faultOf, Except.error.inj fails] at told
    rcases told with ⟨-, empty⟩ | ⟨⟨message, code, trap⟩, -⟩
    · exact spends.2 empty
    · cases trap
  | @returned f s results store resolves accepts returns =>
    have spends := i.enter_spends f (args.map Value.bits)
    rw [returns] at spends
    exact ⟨store, rfl, spends, nofun⟩

structure Defines (i : Instance) (f : Nat) (func : Wasm.Func) : Prop where
  guest : i.program.hostCalls[f]? = none
  found : i.program.module.funcs[f - i.program.hostCalls.size]? = some func

theorem Defines.isHostFunction {func : Wasm.Func} (defines : i.Defines f func) :
    i.isHostFunction f = false := by
  have outside := Array.getElem?_eq_none_iff.mp defines.guest
  exact decide_eq_false (Nat.not_lt_of_le outside)

theorem enter_of_defines {func : Wasm.Func} (defines : i.Defines f func) (args : List Slot) :
    i.enter f args = i.program.call f args i.store := by
  rw [enter, defines.isHostFunction]
  rfl

theorem call_of_exhausted {func : Wasm.Func} {s : Signature} (defines : i.Defines f func)
    (nests : 0 < i.program.maxDepth) (empty : i.program.isExhausted i.store.fuelSpent = true)
    (resolves : i.resolve (qualify interface name) = .ok (f, s))
    (accepts : args.map Value.kind = s.params) :
    i.call interface name args =
      (.error .fuelExhausted, { i with store := i.store.withFuel (i.store.fuelSpent + 1) }) := by
  have stops : i.enter f (args.map Value.bits) =
      .stop (.trap .outOfFuel) (i.store.withFuel (i.store.fuelSpent + 1)) := by
    rw [enter_of_defines defines]
    exact Wasm.callLaws.refuses _ defines.guest defines.found nests empty
  rw [call, callWith_of_stop resolves accepts stops, faultOf, defines.isHostFunction]
  rfl

end Instance

/-- A failure that reports exhausted fuel, of a call or of a creation. -/
def Failure.SaysExhausted (e : Failure) : Prop :=
  e = .fuelExhausted ∨ e = .instantiation "fuel exhausted while running the start function"

theorem Failure.Untrapped.not_saysExhausted {e : Failure} (other : e.Untrapped) :
    ¬ e.SaysExhausted := by
  obtain ⟨text, rfl, head⟩ := other
  rintro (same | same)
  · cases same
  · cases same
    exact head (by decide)

theorem GuestFault.not_saysExhausted_of_trap {layers : List String} {t : Wasm.Trap}
    (other : t ≠ .outOfFuel) :
    ¬ (⟨layers, .trap t⟩ : GuestFault).toCreationFailure.SaysExhausted := by
  rw [toCreationFailure_of_trap other]
  rintro (same | same)
  · cases same
  · have letters := congrArg (fun text => text.toList.head?) (Failure.instantiation.inj same)
    simp [String.toList_append] at letters

namespace Instance

variable {engine : Engine} {limits : Settings.Limits} {pool : Pool} {m : GuestModule}
  {fuel : Option UInt64} {e : Failure}

theorem exhausted_of_create (fails : create engine limits pool m fuel = .error e)
    (reports : e.SaysExhausted) : StartFails engine limits pool m fuel (.trap .outOfFuel) := by
  rcases untrapped_or_of_create fails with other | ⟨t, layers, traps, rfl⟩
  · exact absurd reports other.not_saysExhausted
  · by_cases exhausted : t = .outOfFuel
    · subst exhausted
      rcases traps with ⟨_, _, _, -, -, -, overhangs⟩ | stops
      · exact absurd rfl overhangs.ne_outOfFuel
      · exact stops
    · exact absurd reports (GuestFault.not_saysExhausted_of_trap exhausted)

theorem nesting_pos [Runtime] {engine : Engine} {s : Settings.Engine}
    (stands : Engine.create s = .ok engine) :
    0 < engine.runtime.nesting engine.settings.stackBytes := by
  unfold Engine.create Engine.refusal at stands
  split at stands
  · cases stands
  · cases stands
    rename_i fine
    split at fine
    · cases fine
    · rename_i stack
      have positive : 0 < s.stackKb.toNat :=
        Nat.pos_of_ne_zero fun zero => stack (UInt32.toNat_inj.mp zero)
      exact Runtime.nesting_pos _ (Nat.le_mul_of_pos_left 1024 positive)

end Instance

end ModuleHost
