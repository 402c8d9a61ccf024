import ModuleHost.Proofs.Wasm.Range
import ModuleHost.Wasm.Module
import ModuleHost.Wasm.Operation

namespace ModuleHost.Wasm

/-- A constant has the bits of its type, and so has whatever a load makes of the bytes that it
reads. -/
def Op.Sized : Op → Prop
  | const t bits => t.Holds bits
  | memory (.load t bytes signed _) => ∀ n, n < 256 ^ bytes → t.Holds (loaded t bytes signed n)
  | _ => True

mutual

def Instr.Sized : Instr → Prop
  | .op o => o.Sized
  | .block _ body => SizedCode body
  | .loop _ body => SizedCode body
  | .ifElse _ yes no => SizedCode yes ∧ SizedCode no
  | _ => True

def SizedCode : List Instr → Prop
  | [] => True
  | i :: is => i.Sized ∧ SizedCode is

end

theorem sizedCode_iff {code : List Instr} : SizedCode code ↔ ∀ i ∈ code, i.Sized := by
  induction code with
  | nil => simp [SizedCode]
  | cons i code ih => simp [SizedCode, ih]

structure TableType.Sized (t : TableType) : Prop where
  reference : t.element.isReference = true
  max : ∀ max ∈ t.limits.max, ValType.i32.Holds max

structure Module.Sized (m : Module) : Prop where
  bodies : ∀ func ∈ m.funcs, SizedCode func.body
  globals : ∀ g ∈ m.globals, ∀ o ∈ g.init, o.Sized
  tables : ∀ t ∈ m.tables, t.Sized

end ModuleHost.Wasm
