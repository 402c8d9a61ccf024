import ModuleHost.Wasm.Binary.Instr

namespace ModuleHost.Wasm.Binary

def magic : List UInt8 :=
  [0x00, 0x61, 0x73, 0x6d]

def version : List UInt8 :=
  [0x01, 0x00, 0x00, 0x00]

def importEntry : Reader Import := do
  let moduleName ← name
  let name ← name
  match ← byte with
  | 0x00 => return ⟨moduleName, name, .func (← u32)⟩
  | 0x01 => return ⟨moduleName, name, .table (← tableType)⟩
  | 0x02 => return ⟨moduleName, name, .memory (← limits)⟩
  | 0x03 => return ⟨moduleName, name, .global (← globalType)⟩
  | _ => refuse (.malformed "import kind")

def exportEntry : Reader Export := do
  let name ← name
  match ← byte with
  | 0x00 => return ⟨name, .func (← u32)⟩
  | 0x01 => return ⟨name, .table (← u32)⟩
  | 0x02 => return ⟨name, .memory (← u32)⟩
  | 0x03 => return ⟨name, .global (← u32)⟩
  | _ => refuse (.malformed "export kind")

def globalEntry : Reader Global := do
  let type ← globalType
  return ⟨type, ← constExpr⟩

def funcItem : Reader ConstExpr := do
  return [.refFunc (← u32)]

def elemEntry : Reader Elem := do
  let flags ← u32
  if 8 ≤ flags then refuse (.malformed "element segment flags")
  else
    let isActive := flags % 2 = 0
    let isExplicit := flags / 2 % 2 = 1
    let hasExprs := flags / 4 = 1
    let mode ←
      if isActive then do
        let table ← if isExplicit then u32 else pure 0
        pure (SegmentMode.active table (← constExpr))
      else pure (if isExplicit then .declarative else .passive)
    let type ←
      if isActive && !isExplicit then pure ValType.funcref
      else if hasExprs then refType
      else do
        match ← byte with
        | 0x00 => pure .funcref
        | _ => refuse (.malformed "element kind")
    let items ← vector (if hasExprs then constExpr else funcItem)
    return ⟨type, items, mode⟩

def dataEntry : Reader Data := do
  let mode ←
    match ← u32 with
    | 0 => pure (SegmentMode.active 0 (← constExpr))
    | 1 => pure .passive
    | 2 => do
      let memory ← u32
      pure (.active memory (← constExpr))
    | _ => refuse (.malformed "data segment flags")
  let size ← u32
  return ⟨← take size, mode⟩

def localRun : Reader (Nat × ValType) := do
  let count ← u32
  return (count, ← valType)

def maxLocals : Nat := 50000

def codeEntry : Reader (List (Nat × ValType) × List Instr) := do
  let size ← u32
  let bytes ← take size
  let body : Reader (List (Nat × ValType) × List Instr) := do
    let locals ← vector localRun
    if maxLocals < locals.foldl (fun acc run => acc + run.1) 0 then refuse (.tooMany "locals")
    else return (locals, ← expression)
  match body bytes with
  | .ok (code, []) => return code
  | .ok _ => refuse (.malformed "function body")
  | .error fault => refuse fault

/-- A module that is being read: the function section gives the types of the functions and the
code section their bodies. -/
structure Draft where
  types : List FuncType := []
  imports : List Import := []
  funcs : List Nat := []
  tables : List TableType := []
  memories : List Limits := []
  globals : List Global := []
  exports : List Export := []
  start : Option Nat := none
  elems : List Elem := []
  dataCount : Option Nat := none
  code : List (List (Nat × ValType) × List Instr) := []
  datas : List Data := []

def sectionOrder : UInt8 → Option Nat
  | 1 => some 1
  | 2 => some 2
  | 3 => some 3
  | 4 => some 4
  | 5 => some 5
  | 6 => some 6
  | 7 => some 7
  | 8 => some 8
  | 9 => some 9
  | 12 => some 10
  | 10 => some 11
  | 11 => some 12
  | _ => none

def sectionBody (draft : Draft) : UInt8 → Reader Draft
  | 1 => do return { draft with types := ← vector funcType }
  | 2 => do return { draft with imports := ← vector importEntry }
  | 3 => do return { draft with funcs := ← vector u32 }
  | 4 => do return { draft with tables := ← vector tableType }
  | 5 => do return { draft with memories := ← vector limits }
  | 6 => do return { draft with globals := ← vector globalEntry }
  | 7 => do return { draft with exports := ← vector exportEntry }
  | 8 => do return { draft with start := some (← u32) }
  | 9 => do return { draft with elems := ← vector elemEntry }
  | 10 => do return { draft with code := ← vector codeEntry }
  | 11 => do return { draft with datas := ← vector dataEntry }
  | 12 => do return { draft with dataCount := some (← u32) }
  | id => refuse (.unknownSection id)

def sections : Nat → Nat → Draft → List UInt8 → Except ModuleFault Draft
  | _, _, draft, [] => .ok draft
  | 0, _, _, _ => .error .unexpectedEnd
  | steps + 1, place, draft, id :: bytes => do
    let (size, bytes) ← u32 bytes
    let (body, bytes) ← take size bytes
    if id = 0 then
      let _ ← name body
      sections steps place draft bytes
    else
      match sectionOrder id with
      | none => .error (.unknownSection id)
      | some next =>
        if next ≤ place then .error (.sectionOutOfOrder id)
        else
          match ← sectionBody draft id body with
          | (draft, []) => sections steps next draft bytes
          | _ => .error (.sectionSize id)

def Draft.toModule (d : Draft) : Except ModuleFault Module :=
  if d.funcs.length ≠ d.code.length then .error (.countMismatch "function and code section")
  else if d.dataCount.any (· ≠ d.datas.length) then
    .error (.countMismatch "data count and data section")
  else
    .ok {
      types := d.types.toArray
      imports := d.imports
      funcs := (List.zipWith (fun t c => ⟨t, c.1, c.2⟩) d.funcs d.code).toArray
      tables := d.tables.toArray
      memories := d.memories.toArray
      globals := d.globals.toArray
      exports := d.exports
      start := d.start
      elems := d.elems.toArray
      dataCount := d.dataCount
      datas := d.datas.toArray }

def decode (bytes : List UInt8) : Except ModuleFault Module := do
  if magic.isPrefixOf bytes then
    let rest := bytes.drop magic.length
    if version.isPrefixOf rest then
      let body := rest.drop version.length
      let draft ← sections body.length 0 {} body
      draft.toModule
    else .error .unknownVersion
  else .error (.malformed "header")

end ModuleHost.Wasm.Binary
