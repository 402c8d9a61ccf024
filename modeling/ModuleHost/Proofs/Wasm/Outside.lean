import ModuleHost.Proofs.Wasm.Metering

namespace ModuleHost.Wasm

open Wasi (Outside)

def Program.withOutside (p : Program) (w : Outside) : Program :=
  { p with outside := w }

variable {p : Program} {w : Outside}

theorem step_withOutside (code : List Instr) (labels : List Label) (c : Config) :
    (p.withOutside w).step code labels c = p.step code labels c := by
  cases code with
  | nil => cases labels <;> rfl
  | cons i code => cases i <;> rfl

section Closed

variable (closed : p.hostCalls = #[])

include closed

theorem dispatch_withOutside (enter : Func → List Slot → Store → CallExit) :
    (p.withOutside w).dispatch enter = p.dispatch enter := by
  funext f args s
  have guest : p.hostCalls[f]? = none := by simp [closed]
  have guest' : (p.withOutside w).hostCalls[f]? = none := guest
  simp only [Program.dispatch, guest, guest']
  rfl

theorem run_withOutside (callee : Nat → List Slot → Store → CallExit) (steps : Nat) :
    (p.withOutside w).run callee steps = p.run callee steps := by
  induction steps with
  | zero => rfl
  | succ steps ih =>
    funext code labels c
    simp only [Program.run, step_withOutside, dispatch_withOutside closed, ih]
    rfl

theorem callAt_withOutside (depth : Nat) :
    (p.withOutside w).callAt depth = p.callAt depth := by
  induction depth with
  | zero => exact dispatch_withOutside closed _
  | succ depth ih =>
    simp only [Program.callAt, dispatch_withOutside closed, ih, run_withOutside closed]
    rfl

/-- A program that imports nothing does not notice the world. -/
theorem call_withOutside (f : Nat) (args : List Slot) (s : Store) :
    (p.withOutside w).call f args s = p.call f args s := by
  rw [call_eq, call_eq]
  have called := callAt_withOutside (w := w) closed p.maxDepth
  exact congrArg (fun callAt => (callAt f args.reverse s).returning (p.funcType f)) called

end Closed

end ModuleHost.Wasm
