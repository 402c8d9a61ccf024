import ModuleHost.Wasm.Binary.Module
import ModuleHost.Wasm.Memory
import ModuleHost.Wasm.Text.Code

namespace ModuleHost.Wasm.Text

inductive ExternType where
  | func (type : TypeUse)
  | table (type : TableType)
  | memory (limits : Limits)
  | global (type : GlobalType)

inductive Mode where
  | passive
  | active (target : Ref) (offset : List Instruction)
  | declarative

inductive Content where
  | type (type : FuncType)
  | imported (moduleName name : List UInt8) (type : ExternType)
  | func (type : TypeUse) (locals : List (Option String × ValType)) (code : List Instruction)
  | table (type : TableType)
  | memory (limits : Limits)
  | global (type : GlobalType) (init : List Instruction)
  | exported (name : List UInt8) (space : IndexSpace) (ref : Ref)
  | start (ref : Ref)
  | elem (mode : Mode) (type : ValType) (items : List (List Instruction))
  | data (mode : Mode) (bytes : List UInt8)

structure Field where
  space : Option IndexSpace
  name : Option String
  content : Content

def countOf (fields : List Field) (space : IndexSpace) : Nat :=
  (fields.filter (·.space = some space)).length

def externSpace : String → Option IndexSpace
  | "func" => some .func
  | "table" => some .table
  | "memory" => some .memory
  | "global" => some .global
  | _ => none

def externKind : IndexSpace → UInt8
  | .table => 0x01
  | .memory => 0x02
  | .global => 0x03
  | _ => 0x00

def finish (result : α × List Expr) : Except ModuleFault α :=
  match result with
  | (x, []) => .ok x
  | _ => refuse "unexpected token"

def takeExports : List Expr → List (List UInt8) × List Expr
  | .list [.word "export", .bytes name] :: rest =>
    let (names, rest) := takeExports rest
    (name :: names, rest)
  | rest => ([], rest)

def readSize : Expr → Except ModuleFault Nat
  | .word w => (readInteger 64 w.toList).elim (refuse "expected a size") .ok
  | _ => refuse "expected a size"

def dropIndexType : List Expr → List Expr
  | .word "i32" :: es => es
  | es => es

def readLimits (es : List Expr) : Except ModuleFault Limits :=
  match dropIndexType es with
  | [min] => do return ⟨← readSize min, none⟩
  | [min, max] => do return ⟨← readSize min, some (← readSize max)⟩
  | _ => refuse "expected a size"

def readRefType (e : Expr) : Except ModuleFault ValType := do
  let t ← readValType e
  if t.isReference then return t else refuse "expected a reference type"

def readTableType (es : List Expr) : Except ModuleFault TableType :=
  match es.reverse with
  | element :: limits => do return ⟨← readRefType element, ← readLimits limits.reverse⟩
  | [] => refuse "expected a table type"

def takeGlobalType : List Expr → Except ModuleFault (GlobalType × List Expr)
  | .list [.word "mut", type] :: rest => do return (⟨← readValType type, true⟩, rest)
  | type :: rest => do return (⟨← readValType type, false⟩, rest)
  | [] => refuse "expected a global type"

def readExternType (space : IndexSpace) (es : List Expr) : Except ModuleFault ExternType := do
  match space with
  | .func => return .func (← finish (← takeTypeUse es))
  | .table => return .table (← readTableType es)
  | .memory => return .memory (← readLimits es)
  | _ => return .global (← finish (← takeGlobalType es))

section

variable (steps : Nat)

def readOffset : Expr → Except ModuleFault (List Instruction)
  | .list (.word "offset" :: code) => flatten steps code
  | e => flatten steps [e]

def readItem : Expr → Except ModuleFault (List Instruction)
  | .list (.word "item" :: code) => flatten steps code
  | .list es => flatten steps [.list es]
  | _ => refuse "expected an expression"

def readIndices (es : List Expr) : Except ModuleFault (List (List Instruction)) := do
  return (← readRefs es).map fun r => [⟨[0xd2], .refs [(.func, r)]⟩]

def readItems (type : ValType) (es : List Expr) : Except ModuleFault (List (List Instruction)) :=
  if type = .funcref ∧ (takeRef es).1.isSome then readIndices es else es.mapM (readItem steps)

def readElements : List Expr → Except ModuleFault (ValType × List (List Instruction))
  | .word "func" :: es => do return (.funcref, ← readIndices es)
  | [] => .ok (.funcref, [])
  | e :: es =>
    match readRefType e with
    | .ok type => do return (type, ← readItems steps type es)
    | .error _ => do return (.funcref, ← readIndices (e :: es))

def takePlace (word : String) (es : List Expr) : Except ModuleFault (Mode × List Expr) := do
  let (target, es) ←
    match es with
    | .list [.word w, .word r] :: rest =>
      if w = word then do pure ((← readRef [.word r]).1, rest) else pure (.index 0, es)
    | es =>
      match takeRef es with
      | (some r, rest) => pure (r, rest)
      | (none, _) => pure (.index 0, es)
  match es with
  | offset :: es => return (.active target (← readOffset steps offset), es)
  | [] => refuse "expected an offset"

def isSegmentPlace : List Expr → Bool
  | .word w :: _ => (readInteger 32 w.toList).isSome
  | .list items :: _ => !startsList "ref" [.list items]
  | _ => false

def readElem (es : List Expr) : Except ModuleFault Content := do
  let (mode, es) ←
    match es with
    | .word "declare" :: es => pure (.declarative, es)
    | es => if isSegmentPlace es then takePlace steps "table" es else pure (.passive, es)
  let (type, items) ← readElements steps es
  return .elem mode type items

end

def numberBytes : String → Option (List Char → Option (List UInt8))
  | "i8" => some (intBytes 1)
  | "i16" => some (intBytes 2)
  | "i32" => some (intBytes 4)
  | "i64" => some (intBytes 8)
  | "f32" => some (floatBytes Ieee.binary32)
  | "f64" => some (floatBytes Ieee.binary64)
  | _ => none

def readVectors : Nat → List Expr → Except ModuleFault (List UInt8)
  | _, [] => .ok []
  | 0, _ => refuse "expected a vector"
  | count + 1, es => do
    let (bytes, es) ← takeVector es
    return bytes ++ (← readVectors count es)

def readString : Expr → Except ModuleFault (List UInt8)
  | .bytes bytes => .ok bytes
  | _ => refuse "expected a string"

def readPiece : Expr → Except ModuleFault (List UInt8)
  | .list (.word "v128" :: es) => readVectors es.length es
  | .list (.word kind :: es) =>
    match numberBytes kind with
    | some read => do finish (← takeNumbers read es.length es)
    | none => refuse "expected a string"
  | e => readString e

def readPieces (es : List Expr) : Except ModuleFault (List UInt8) := do
  return (← es.mapM readPiece).flatten

def readData (steps : Nat) (es : List Expr) : Except ModuleFault Content := do
  let (mode, es) ←
    match es with
    | [] => pure (.passive, [])
    | .bytes bytes :: es => pure (.passive, .bytes bytes :: es)
    | es => takePlace steps "memory" es
  return .data mode (← readPieces es)

/-- What a field defines, with the segment that is written inside of it. `own` is its index. -/
def readDefinition (steps own : Nat) (space : IndexSpace) (es : List Expr) :
    Except ModuleFault (Content × Option Content) := do
  let place : Mode := .active (.index own) [⟨[0x41], .bytes [0x00]⟩]
  match space, dropIndexType es with
  | .func, _ =>
    let (type, es) ← takeTypeUse es
    let (locals, es) ← takeDeclarations "local" es
    return (.func type locals (← flatten steps es), none)
  | .table, [type, .list (.word "elem" :: items)] =>
    let type ← readRefType type
    let items ← readItems steps type items
    let count := items.length
    return (.table ⟨type, count, some count⟩, some (.elem place type items))
  | .table, _ => return (.table (← readTableType es), none)
  | .memory, [.list (.word "data" :: pieces)] =>
    let bytes ← readPieces pieces
    let pages := (bytes.length + pageSize - 1) / pageSize
    return (.memory ⟨pages, some pages⟩, some (.data place bytes))
  | .memory, _ => return (.memory (← readLimits es), none)
  | _, _ =>
    let (type, es) ← takeGlobalType es
    return (.global type (← flatten steps es), none)

def segmentSpace : Content → IndexSpace
  | .data .. => .data
  | _ => .elem

def readDeclaration (steps own : Nat) (space : IndexSpace) (es : List Expr) :
    Except ModuleFault (List Field) := do
  let (name, es) := takeName es
  let (exports, es) := takeExports es
  let exports := exports.map fun n => ⟨none, none, .exported n space (.index own)⟩
  match es with
  | .list [.word "import", .bytes m, .bytes n] :: es =>
    return exports ++ [⟨some space, name, .imported m n (← readExternType space es)⟩]
  | es =>
    let (content, segment) ← readDefinition steps own space es
    return exports ++ ⟨some space, name, content⟩ ::
      (segment.map fun s => ⟨some (segmentSpace s), none, s⟩).toList

def readField (steps : Nat) (before : List Field) : Expr → Except ModuleFault (List Field)
  | .list (.word "type" :: es) => do
    let (name, es) := takeName es
    match es with
    | [.list (.word "func" :: es)] =>
      let use ← finish (← takeTypeUse es)
      if use.ref.isSome then refuse "unexpected token"
      return [⟨some .type, name, .type (use.inline.getD ⟨[], []⟩)⟩]
    | _ => refuse "expected a function type"
  | .list [.word "import", .bytes m, .bytes n, .list (.word kind :: es)] =>
    match externSpace kind with
    | some space => do
      let (name, es) := takeName es
      return [⟨some space, name, .imported m n (← readExternType space es)⟩]
    | none => refuse "unknown kind of import"
  | .list [.word "export", .bytes name, .list (.word kind :: es)] =>
    match externSpace kind with
    | some space => do return [⟨none, none, .exported name space (← finish (← readRef es))⟩]
    | none => refuse "unknown kind of export"
  | .list (.word "start" :: es) => do return [⟨none, none, .start (← finish (← readRef es))⟩]
  | .list (.word "elem" :: es) => do
    let (name, es) := takeName es
    return [⟨some .elem, name, ← readElem steps es⟩]
  | .list (.word "data" :: es) => do
    let (name, es) := takeName es
    return [⟨some .data, name, ← readData steps es⟩]
  | .list (.word kind :: es) =>
    match externSpace kind with
    | some space => readDeclaration steps (countOf before space) space es
    | none => refuse ("unexpected token: " ++ kind)
  | _ => refuse "expected a module field"

def readFields (steps : Nat) (es : List Expr) : Except ModuleFault (List Field) :=
  es.foldlM (fun before e => do return before ++ (← readField steps before e)) []

def Content.isImport : Content → Bool
  | imported .. => true
  | _ => false

def Content.isDefinition : Content → Bool
  | func .. | table _ | memory _ | global .. => true
  | _ => false

def checkOrder : List Field → Except ModuleFault Unit
  | x :: y :: rest =>
    if x.content.isDefinition ∧ y.content.isImport then refuse "import after a definition"
    else checkOrder (y :: rest)
  | _ => .ok ()

def checkNames : List (Option String) → Except ModuleFault Unit
  | [] => .ok ()
  | name :: names =>
    if name.isSome ∧ names.contains name then refuse "duplicate identifier" else checkNames names

def namesOf (fields : List Field) (space : IndexSpace) : List (Option String) :=
  (fields.filter (·.space = some space)).map (·.name)

def spaces : List IndexSpace :=
  [.type, .func, .table, .memory, .global, .elem, .data]

def TypeUse.inlineType (use : TypeUse) : Option FuncType :=
  if use.ref.isSome then none else some (use.inline.getD ⟨[], []⟩)

def Mode.inlineTypes : Mode → List FuncType
  | active _ offset => Text.inlineTypes offset
  | _ => []

def Content.inlineTypes : Content → List FuncType
  | imported _ _ (.func use) => use.inlineType.toList
  | func use _ code => use.inlineType.toList ++ Text.inlineTypes code
  | global _ init => Text.inlineTypes init
  | elem mode _ items => mode.inlineTypes ++ items.flatMap Text.inlineTypes
  | data mode _ => mode.inlineTypes
  | _ => []

def Content.declaredType : Content → Option FuncType
  | type t => some t
  | _ => none

/-- The types of a module: those that are declared, and then those that are only written out. -/
def typesOf (fields : List Field) : List FuncType :=
  (fields.flatMap (·.content.inlineTypes)).foldl
    (fun types t => if types.contains t then types else types ++ [t])
    (fields.filterMap (·.content.declaredType))

namespace Scope

variable (scope : Scope)

def writeExternType : ExternType → Except ModuleFault (List UInt8)
  | .func use => do return 0x00 :: Binary.writeUnsigned (← scope.typeIndex use)
  | .table t => .ok (0x01 :: Binary.writeTableType t)
  | .memory l => .ok (0x02 :: Binary.writeLimits l)
  | .global g => .ok (0x03 :: Binary.writeGlobalType g)

def paramNames (use : TypeUse) : Except ModuleFault (List (Option String)) := do
  match use.inline, use.ref with
  | none, some r =>
    let type := scope.types[← scope.resolve .type r]?
    return (type.elim [] (·.params)).map fun _ => none
  | _, _ => return use.names

def writeFunc (use : TypeUse) (locals : List (Option String × ValType))
    (code : List Instruction) : Except ModuleFault (List UInt8) := do
  let names := (← scope.paramNames use) ++ locals.map Prod.fst
  checkNames names
  let inner := { scope with
    names := fun s => if s = IndexSpace.local then names else scope.names s }
  let runs := locals.map fun l => [0x01, Binary.writeValType l.2]
  return Binary.writeBytes (Binary.writeVector runs ++ (← inner.writeCode [] code))

def writeElem (mode : Mode) (type : ValType) (items : List (List Instruction)) :
    Except ModuleFault (List UInt8) := do
  let head ←
    match mode with
    | .passive => pure [0x05]
    | .active table offset => do
      pure (0x06 :: (← scope.write .table table) ++ (← scope.writeCode [] offset))
    | .declarative => pure [0x07]
  let items ← items.mapM (scope.writeCode [])
  return head ++ Binary.writeValType type :: Binary.writeVector items

def writeData (mode : Mode) (bytes : List UInt8) : Except ModuleFault (List UInt8) := do
  let head ←
    match mode with
    | .active memory offset => do
      pure (0x02 :: (← scope.write .memory memory) ++ (← scope.writeCode [] offset))
    | _ => pure [0x01]
  return head ++ Binary.writeBytes bytes

def entry (id : UInt8) (content : Content) : Except ModuleFault (Option (List UInt8)) := do
  match id, content with
  | 2, .imported m n type =>
    return some (Binary.writeBytes m ++ Binary.writeBytes n ++ (← scope.writeExternType type))
  | 3, .func use _ _ => return some (Binary.writeUnsigned (← scope.typeIndex use))
  | 4, .table t => return some (Binary.writeTableType t)
  | 5, .memory l => return some (Binary.writeLimits l)
  | 6, .global type init => return some (Binary.writeGlobalType type ++ (← scope.writeCode [] init))
  | 7, .exported name space r =>
    return some (Binary.writeBytes name ++ externKind space :: (← scope.write space r))
  | 9, .elem mode type items => return some (← scope.writeElem mode type items)
  | 10, .func use locals code => return some (← scope.writeFunc use locals code)
  | 11, .data mode bytes => return some (← scope.writeData mode bytes)
  | _, _ => return none

def writeFields (fields : List Field) (id : UInt8) : Except ModuleFault (List UInt8) := do
  return Binary.writeSection id (← fields.filterMapM fun f => scope.entry id f.content)

def writeStart (fields : List Field) : Except ModuleFault (List UInt8) := do
  match fields.filterMap fun f => match f.content with | .start r => some r | _ => none with
  | [] => return []
  | [r] => return 0x08 :: Binary.writeBytes (← scope.write .func r)
  | _ => refuse "multiple start sections"

end Scope

def writeDataCount (fields : List Field) : List UInt8 :=
  match countOf fields .data with
  | 0 => []
  | count => 0x0c :: Binary.writeBytes (Binary.writeUnsigned count)

def writeModule (fields : List Field) : Except ModuleFault (List UInt8) := do
  checkOrder fields
  spaces.forM fun space => checkNames (namesOf fields space)
  let scope : Scope := ⟨typesOf fields, namesOf fields⟩
  let types := Binary.writeSection 1 (scope.types.map Binary.writeFuncType)
  let declared ← [2, 3, 4, 5, 6, 7].mapM (scope.writeFields fields)
  let start ← scope.writeStart fields
  let elems ← scope.writeFields fields 9
  let code ← [10, 11].mapM (scope.writeFields fields)
  return Binary.magic ++ Binary.version ++ types ++ declared.flatten ++ start ++ elems ++
    writeDataCount fields ++ code.flatten

def assemble (text : String) : Except ModuleFault (List UInt8) := do
  let steps := text.length + 1
  match ← expressions text with
  | [] => refuse "expected at least one module field"
  | [.list (.word "module" :: es)] =>
    match (takeName es).2 with
    | .word "binary" :: strings => return (← strings.mapM readString).flatten
    | es => writeModule (← readFields steps es)
  | es => writeModule (← readFields steps es)

end ModuleHost.Wasm.Text
