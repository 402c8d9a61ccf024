import ModuleHost.Wasm.Instr

namespace ModuleHost.Wasm

inductive ImportType where
  | func (type : Nat)
  | table (type : TableType)
  | memory (limits : Limits)
  | global (type : GlobalType)
  deriving DecidableEq, Repr

structure Import where
  moduleName : String
  name : String
  type : ImportType
  deriving DecidableEq, Repr

inductive ExportTarget where
  | func (i : Nat)
  | table (i : Nat)
  | memory (i : Nat)
  | global (i : Nat)
  deriving DecidableEq, Repr

def ExportTarget.kind : ExportTarget → String
  | func _ => "func"
  | table _ => "table"
  | memory _ => "memory"
  | global _ => "global"

structure Export where
  name : String
  target : ExportTarget
  deriving DecidableEq, Repr

structure Func where
  type : Nat
  locals : List (Nat × ValType)
  body : List Instr
  deriving Repr

abbrev ConstExpr := List Op

structure Global where
  type : GlobalType
  init : ConstExpr
  deriving DecidableEq, Repr

/-- When a segment is used: by instructions only, on instantiation, or not at all. -/
inductive SegmentMode where
  | passive
  | active (target : Nat) (offset : ConstExpr)
  | declarative
  deriving DecidableEq, Repr

structure Elem where
  type : ValType
  items : List ConstExpr
  mode : SegmentMode
  deriving DecidableEq, Repr

structure Data where
  bytes : List UInt8
  mode : SegmentMode
  deriving DecidableEq, Repr

structure Module where
  types : Array FuncType
  imports : List Import
  funcs : Array Func
  tables : Array TableType
  memories : Array Limits
  globals : Array Global
  exports : List Export
  start : Option Nat
  elems : Array Elem
  dataCount : Option Nat
  datas : Array Data
  deriving Repr

namespace Module

variable (m : Module)

def importedFuncs : List Nat :=
  m.imports.filterMap fun i => match i.type with | .func t => some t | _ => none

def importedTables : List TableType :=
  m.imports.filterMap fun i => match i.type with | .table t => some t | _ => none

def importedMemories : List Limits :=
  m.imports.filterMap fun i => match i.type with | .memory l => some l | _ => none

def importedGlobals : List GlobalType :=
  m.imports.filterMap fun i => match i.type with | .global t => some t | _ => none

def funcTypes : Array Nat :=
  m.importedFuncs.toArray ++ m.funcs.map (·.type)

def tableTypes : Array TableType :=
  m.importedTables.toArray ++ m.tables

def memoryTypes : Array Limits :=
  m.importedMemories.toArray ++ m.memories

def globalTypes : Array GlobalType :=
  m.importedGlobals.toArray ++ m.globals.map (·.type)

def funcType (f : Nat) : Option FuncType := do
  let t ← m.funcTypes[f]?
  m.types[t]?

def blockType : BlockType → Option FuncType
  | .empty => some ⟨[], []⟩
  | .result t => some ⟨[], [t]⟩
  | .func i => m.types[i]?

def importNames : List String :=
  m.imports.map fun i => i.moduleName ++ "::" ++ i.name

end Module

end ModuleHost.Wasm
