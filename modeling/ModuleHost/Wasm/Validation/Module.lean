import ModuleHost.Wasm.Validation.Body

namespace ModuleHost.Wasm.Validation

def maxParams : Nat := 1000
def maxTables : Nat := 100
def maxMemories : Nat := 100

def maxTableSize : Nat := 10000000

def maxPages : Nat := 65536

def checkFuncType (t : FuncType) : Except ModuleFault Unit := do
  (t.params ++ t.results).forM Context.enabled
  if maxParams < t.params.length then .error (.tooMany "parameters")
  else if maxParams < t.results.length then .error (.tooMany "results")
  else return ()

def checkLimits (l : Limits) : Except ModuleFault Unit :=
  if l.max.any (· < l.min) then .error .limitsOutOfOrder else .ok ()

def checkTable (t : TableType) : Except ModuleFault Unit := do
  Context.enabled t.element
  checkLimits t.limits
  if maxTableSize < t.limits.min then .error (.sizeOutOfBounds "table") else return ()

def checkMemory (l : Limits) : Except ModuleFault Unit := do
  checkLimits l
  if maxPages < l.min ∨ l.max.any (maxPages < ·) then .error (.sizeOutOfBounds "memory")
  else return ()

def checkImport (m : Module) (i : Import) : Except ModuleFault Unit :=
  match i.type with
  | .func t => (find m.types .type t).map fun _ => ()
  | .table t => checkTable t
  | .memory l => checkMemory l
  | .global g => Context.enabled g.value

/-- An operator that may stand in a constant expression: of globals only imported ones that never
change, of arithmetic only sums, differences and products of integers. -/
def isConstant (importedGlobals : List GlobalType) : Op → Except ModuleFault Bool
  | .const .. | .refNull _ | .refFunc _ => .ok true
  | .var (.globalGet i) =>
    match importedGlobals[i]? with
    | some g => .ok !g.isMutable
    | none => .ok false
  | .binary (.int _ .add) | .binary (.int _ .sub) | .binary (.int _ .mul) => .ok true
  | _ => .ok false

def checkConstOps (c : Context) (importedGlobals : List GlobalType) :
    ConstExpr → Operands → Except ModuleFault Operands
  | [], s => .ok s
  | o :: os, s => do
    if ← isConstant importedGlobals o then
      checkConstOps c importedGlobals os (← checkOp c o s)
    else .error .notConstant

def checkConst (c : Context) (importedGlobals : List GlobalType) (type : ValType)
    (e : ConstExpr) : Except ModuleFault Unit := do
  let s ← checkConstOps c importedGlobals e ⟨[], false⟩
  s.finish [type]

def checkElem (c : Context) (importedGlobals : List GlobalType) (e : Elem) :
    Except ModuleFault Unit := do
  Context.enabled e.type
  match e.mode with
  | .active table offset =>
    let t ← find c.tables .table table
    if t.element = e.type then checkConst c importedGlobals .i32 offset else .error .typeMismatch
  | _ => pure ()
  e.items.forM (checkConst c importedGlobals e.type)

def checkData (c : Context) (importedGlobals : List GlobalType) (d : Data) :
    Except ModuleFault Unit :=
  match d.mode with
  | .active memory offset => do
    let _ ← find c.memories .memory memory
    checkConst c importedGlobals .i32 offset
  | _ => .ok ()

def checkExport (c : Context) (e : Export) : Except ModuleFault Unit :=
  match e.target with
  | .func i => (find c.funcs .func i).map fun _ => ()
  | .table i => (find c.tables .table i).map fun _ => ()
  | .memory i => (find c.memories .memory i).map fun _ => ()
  | .global i => (find c.globals .global i).map fun _ => ()

def checkNames : List Export → Except ModuleFault Unit
  | [] => .ok ()
  | e :: es =>
    if es.any fun x => x.name = e.name then .error (.duplicateExport e.name) else checkNames es

def checkStart (c : Context) (start : Option Nat) : Except ModuleFault Unit :=
  match start with
  | none => .ok ()
  | some f => do
    let t ← find c.funcs .func f
    if t = ⟨[], []⟩ then return () else .error .startType

def ConstExpr.references (e : ConstExpr) : List Nat :=
  e.filterMap fun o => match o with | .refFunc f => some f | _ => none

def declaredReferences (m : Module) : List Nat :=
  (m.exports.filterMap fun e => match e.target with | .func f => some f | _ => none) ++
    m.globals.toList.flatMap (fun g => ConstExpr.references g.init) ++
    m.elems.toList.flatMap fun e => e.items.flatMap ConstExpr.references

def resolveFuncs (m : Module) : Except ModuleFault (Array FuncType) :=
  m.funcTypes.mapM (find m.types .type)

def check (m : Module) : Except ModuleFault Unit := do
  m.types.forM checkFuncType
  m.imports.forM (checkImport m)
  let funcs ← resolveFuncs m
  m.tables.forM checkTable
  m.memories.forM checkMemory
  if maxTables < m.tableTypes.size then .error (.tooMany "tables")
  if maxMemories < m.memoryTypes.size then .error (.tooMany "memories")
  let declared := declaredReferences m
  let marks := declared.foldl (fun marks f => marks.setIfInBounds f true)
    (Array.replicate funcs.size false)
  let c : Context := {
    types := m.types
    funcs
    tables := m.tableTypes
    memories := m.memoryTypes
    globals := m.globalTypes
    elems := m.elems.map (·.type)
    dataCount := m.dataCount
    isDeclared := fun f => marks.getD f false }
  let imported := m.importedGlobals
  m.globals.forM fun g => do
    Context.enabled g.type.value
    checkConst c imported g.type.value g.init
  m.exports.forM (checkExport c)
  checkNames m.exports
  checkStart c m.start
  m.elems.forM (checkElem c imported)
  m.datas.forM (checkData c imported)
  m.funcs.forM (checkFunc c)

end ModuleHost.Wasm.Validation
