import ModuleHost.Value.Basic
import ModuleHost.Wasm.Types

namespace ModuleHost

structure Signature where
  params : List Value.Kind
  results : List Value.Kind
  deriving DecidableEq, Repr

def Value.Kind.ofType : Wasm.ValType → Option Value.Kind
  | .i32 => some .i32
  | .i64 => some .i64
  | .f32 => some .f32
  | .f64 => some .f64
  | .v128 => some .v128
  | .funcref | .externref => none

def Value.ofOperand (type : Wasm.ValType) (bits : Nat) : Option Value :=
  (Value.Kind.ofType type).map (Value.ofBits · bits)

def Wasm.ValType.describeReference (type : Wasm.ValType) (bits : Nat) : String :=
  (if type = .externref then "ExternRef" else "FuncRef") ++
    if bits = 0 then "(None)" else "(Some(..))"

namespace Signature

def write (s : Signature) : String :=
  "(" ++ Value.Kind.joinNames s.params ++ ") -> (" ++ Value.Kind.joinNames s.results ++ ")"

def pointerCount (s : Signature) : Nat :=
  s.params.length + s.results.length

def kindsOf : List Wasm.ValType → Except Wasm.ValType (List Value.Kind)
  | [] => .ok []
  | t :: ts =>
    match Value.Kind.ofType t with
    | none => .error t
    | some k => (kindsOf ts).map (k :: ·)

def ofFuncType (type : Wasm.FuncType) : Except Wasm.ValType Signature := do
  let params ← kindsOf type.params
  let results ← kindsOf type.results
  return ⟨params, results⟩

def ofExport (name : String) (type : Wasm.FuncType) : Except Failure Signature :=
  (ofFuncType type).mapError fun t => .unsupportedType name t.text

def accepts (s : Signature) (args : List Value) : Bool :=
  args.length = s.params.length && (args.zip s.params).all fun (v, k) => v.kind = k

def requireArgs (s : Signature) (name : String) (args : List Value) : Except Failure Unit :=
  if s.accepts args then .ok ()
  else
    .error (.signatureMismatch name (Value.Kind.joinNames s.params)
      (Value.Kind.joinNames (args.map Value.kind)))

/-- The values of the results that the function exported as `name` has left. The first reference
among them is refused. -/
def collectResults (name : String) : List Wasm.ValType → List Nat → Except Failure (List Value)
  | type :: types, bits :: rest =>
    match Value.ofOperand type bits with
    | none => .error (.unsupportedType name (type.describeReference bits))
    | some v => (collectResults name types rest).map (v :: ·)
  | _, _ => .ok []

end Signature

def qualify (interface : Option String) (name : String) : String :=
  match interface with
  | some i => if i.isEmpty then name else i ++ "#" ++ name
  | none => name

end ModuleHost
