import ModuleHost.Wasm.Fault
import ModuleHost.Wasm.Module

namespace ModuleHost.Wasm.Validation

/-- The types of the operands of a block, top first, unknown ones as `none`. If `anything`, more
operands of any type are below. -/
structure Operands where
  types : List (Option ValType)
  anything : Bool
  deriving DecidableEq, Repr

namespace Operands

def unreachable : Operands :=
  ⟨[], true⟩

def ofTypes (types : List ValType) : Operands :=
  ⟨types.reverse.map some, false⟩

def push (s : Operands) (t : Option ValType) : Operands :=
  { s with types := t :: s.types }

def pushAll (s : Operands) (types : List ValType) : Operands :=
  types.foldl (fun s t => s.push (some t)) s

def popAny (s : Operands) : Except ModuleFault (Option ValType × Operands) :=
  match s.types with
  | t :: types => .ok (t, { s with types })
  | [] => if s.anything then .ok (none, s) else .error .operandMissing

def pop (s : Operands) (expected : ValType) : Except ModuleFault Operands := do
  match ← s.popAny with
  | (none, s) => return s
  | (some t, s) => if t = expected then return s else .error .typeMismatch

def popReversed (s : Operands) : List ValType → Except ModuleFault Operands
  | [] => .ok s
  | t :: ts => do popReversed (← s.pop t) ts

def popAll (s : Operands) (types : List ValType) : Except ModuleFault Operands :=
  s.popReversed types.reverse

def replace (s : Operands) (params results : List ValType) : Except ModuleFault Operands := do
  return (← s.popAll params).pushAll results

def finish (s : Operands) (results : List ValType) : Except ModuleFault Unit := do
  let s ← s.popAll results
  if s.types.isEmpty then return () else .error .operandsLeft

end Operands

structure Context where
  types : Array FuncType
  funcs : Array FuncType
  tables : Array TableType
  memories : Array Limits
  globals : Array GlobalType
  elems : Array ValType
  dataCount : Option Nat
  /-- Whether a function is named outside of bodies, so that bodies may make references to it. -/
  isDeclared : Nat → Bool
  locals : Array ValType := #[]
  labels : List (List ValType) := []
  results : List ValType := []

def find (items : Array α) (space : IndexSpace) (i : Nat) : Except ModuleFault α :=
  match items[i]? with
  | some x => .ok x
  | none => .error (.unknownIndex space i)

namespace Context

variable (c : Context)

def access (arg : MemArg) (bytes : Nat) : Except ModuleFault Unit := do
  let _ ← find c.memories .memory arg.memory
  if Nat.pow 2 arg.align ≤ bytes then return () else .error .alignmentTooLarge

def dataSegment (i : Nat) : Except ModuleFault Unit :=
  if c.dataCount.any (i < ·) then .ok () else .error (.unknownIndex .data i)

def label (i : Nat) : Except ModuleFault (List ValType) :=
  match c.labels[i]? with
  | some types => .ok types
  | none => .error (.unknownIndex .label i)

def enabled (t : ValType) : Except ModuleFault Unit :=
  if t = .externref then .error .disabledType else .ok ()

def blockType : BlockType → Except ModuleFault FuncType
  | .empty => .ok ⟨[], []⟩
  | .result t => do
    enabled t
    return ⟨[], [t]⟩
  | .func i => find c.types .type i

def enter (label : List ValType) : Context :=
  { c with labels := label :: c.labels }

end Context

def selected : Option ValType → Option ValType → Except ModuleFault (Option ValType)
  | none, none => .ok none
  | some t, none | none, some t => if t.isReference then .error .typeMismatch else .ok (some t)
  | some t, some u => if t.isReference ∨ t ≠ u then .error .typeMismatch else .ok (some t)

section

variable (c : Context)

def Context.varOpType : VarOp → Except ModuleFault FuncType
  | .localGet i => do return ⟨[], [← find c.locals .local i]⟩
  | .localSet i => do return ⟨[← find c.locals .local i], []⟩
  | .localTee i => do
    let t ← find c.locals .local i
    return ⟨[t], [t]⟩
  | .globalGet i => do return ⟨[], [(← find c.globals .global i).value]⟩
  | .globalSet i => do
    let g ← find c.globals .global i
    if g.isMutable then return ⟨[g.value], []⟩ else .error (.immutableGlobal i)

def Context.checkMemoryOp : MemoryOp → Except ModuleFault Unit
  | .load _ bytes _ arg | .store _ bytes arg => c.access arg bytes
  | .vectorLoad how arg => c.access arg how.bytes
  | .laneLoad w lane arg | .laneStore w lane arg => do
    c.access arg w.bytes
    if lane < w.count then return () else .error .missingLane
  | .size m | .grow m | .fill m => (find c.memories .memory m).map fun _ => ()
  | .copy dst src => do
    let _ ← find c.memories .memory dst
    let _ ← find c.memories .memory src
  | .init m data => do
    let _ ← find c.memories .memory m
    c.dataSegment data
  | .drop data => c.dataSegment data

def Context.tableOpType : TableOp → Except ModuleFault FuncType
  | .get t => do return ⟨[.i32], [(← find c.tables .table t).element]⟩
  | .set t => do return ⟨[.i32, (← find c.tables .table t).element], []⟩
  | .size t => do
    let _ ← find c.tables .table t
    return ⟨[], [.i32]⟩
  | .grow t => do return ⟨[(← find c.tables .table t).element, .i32], [.i32]⟩
  | .fill t => do return ⟨[.i32, (← find c.tables .table t).element, .i32], []⟩
  | .copy dst src => do
    let d ← find c.tables .table dst
    let e ← find c.tables .table src
    if d.element = e.element then return ⟨[.i32, .i32, .i32], []⟩ else .error .typeMismatch
  | .init t elem => do
    let d ← find c.tables .table t
    let e ← find c.elems .elem elem
    if d.element = e then return ⟨[.i32, .i32, .i32], []⟩ else .error .typeMismatch
  | .drop elem => do
    let _ ← find c.elems .elem elem
    return ⟨[], []⟩

end

def checkOp (c : Context) (o : Op) (s : Operands) : Except ModuleFault Operands := do
  match o with
  | .nop => return s
  | .drop => return (← s.popAny).2
  | .select none =>
    let s ← s.pop .i32
    let (t, s) ← s.popAny
    let (u, s) ← s.popAny
    return s.push (← selected t u)
  | .select (some t) =>
    Context.enabled t
    s.replace [t, t, .i32] [t]
  | .const t _ => return s.push (some t)
  | .unary op => s.replace [op.type.1] [op.type.2]
  | .binary op => s.replace [op.type.1, op.type.1] [op.type.2]
  | .vector op => if op.hasLanes then s.replace op.type.1 [op.type.2] else .error .missingLane
  | .var op =>
    let t ← c.varOpType op
    s.replace t.params t.results
  | .memory op =>
    c.checkMemoryOp op
    s.replace op.type.params op.type.results
  | .table op =>
    let t ← c.tableOpType op
    s.replace t.params t.results
  | .refNull t =>
    Context.enabled t
    return s.push (some t)
  | .refIsNull =>
    match ← s.popAny with
    | (some t, s) => if t.isReference then return s.push (some .i32) else .error .typeMismatch
    | (none, s) => return s.push (some .i32)
  | .refFunc f =>
    let _ ← find c.funcs .func f
    if c.isDeclared f then return s.push (some .funcref) else .error (.undeclaredReference f)

def checkTargets (c : Context) (arity : Nat) (s : Operands) : List Nat → Except ModuleFault Unit
  | [] => .ok ()
  | label :: labels => do
    let types ← c.label label
    if types.length ≠ arity then .error .typeMismatch
    else
      let _ ← s.popAll types
      checkTargets c arity s labels

def leaveTo (c : Context) (t : FuncType) (s : Operands) : Except ModuleFault Operands := do
  if t.results = c.results then
    let _ ← s.popAll t.params
    return .unreachable
  else .error .typeMismatch

mutual

def checkInstr (c : Context) : Instr → Operands → Except ModuleFault Operands
  | .op o, s => checkOp c o s
  | .unreachable, _ => .ok .unreachable
  | .block type body, s => do
    let t ← c.blockType type
    let s ← s.popAll t.params
    let inner ← checkAll (c.enter t.results) body (.ofTypes t.params)
    inner.finish t.results
    return s.pushAll t.results
  | .loop type body, s => do
    let t ← c.blockType type
    let s ← s.popAll t.params
    let inner ← checkAll (c.enter t.params) body (.ofTypes t.params)
    inner.finish t.results
    return s.pushAll t.results
  | .ifElse type yes no, s => do
    let t ← c.blockType type
    let s ← s.pop .i32
    let s ← s.popAll t.params
    let inner ← checkAll (c.enter t.results) yes (.ofTypes t.params)
    inner.finish t.results
    let inner ← checkAll (c.enter t.results) no (.ofTypes t.params)
    inner.finish t.results
    return s.pushAll t.results
  | .br label, s => do
    let _ ← s.popAll (← c.label label)
    return .unreachable
  | .brIf label, s => do
    let types ← c.label label
    (← s.pop .i32).replace types types
  | .brTable labels otherwise, s => do
    let types ← c.label otherwise
    let s ← s.pop .i32
    checkTargets c types.length s labels
    let _ ← s.popAll types
    return .unreachable
  | .ret, s => do
    let _ ← s.popAll c.results
    return .unreachable
  | .call f, s => do
    let t ← find c.funcs .func f
    s.replace t.params t.results
  | .callIndirect table type, s => do
    let d ← find c.tables .table table
    let t ← find c.types .type type
    if d.element = .funcref then (← s.pop .i32).replace t.params t.results
    else .error .typeMismatch
  | .returnCall f, s => do
    leaveTo c (← find c.funcs .func f) s
  | .returnCallIndirect table type, s => do
    let d ← find c.tables .table table
    let t ← find c.types .type type
    if d.element = .funcref then leaveTo c t (← s.pop .i32) else .error .typeMismatch

def checkAll (c : Context) : List Instr → Operands → Except ModuleFault Operands
  | [], s => .ok s
  | i :: is, s => do
    let s ← checkInstr c i s
    checkAll c is s

end

def localTypes (params : List ValType) (runs : List (Nat × ValType)) : Array ValType :=
  runs.foldl (fun acc run => acc ++ Array.replicate run.1 run.2) params.toArray

def checkFunc (c : Context) (f : Func) : Except ModuleFault Unit := do
  let t ← find c.types .type f.type
  f.locals.forM fun run => Context.enabled run.2
  let c := { c with
    locals := localTypes t.params f.locals, labels := [t.results], results := t.results }
  let s ← checkAll c f.body ⟨[], false⟩
  s.finish t.results

end ModuleHost.Wasm.Validation
