import ModuleHost.Wasm.Module
import ModuleHost.Wasm.Text.Mnemonic
import ModuleHost.Wasm.Text.Syntax

namespace ModuleHost.Wasm.Text

inductive Ref where
  | index (i : Nat)
  | name (name : String)
  deriving DecidableEq, Repr

def isName (word : String) : Bool :=
  word.startsWith "$" ∧ word ≠ "$"

def takeName : List Expr → Option String × List Expr
  | .word w :: rest => if isName w then (some w, rest) else (none, .word w :: rest)
  | rest => (none, rest)

def refOf (word : String) : Option Ref :=
  if isName word then some (.name word) else (readInteger 32 word.toList).map .index

def takeRef : List Expr → Option Ref × List Expr
  | .word w :: rest =>
    match refOf w with
    | some r => (some r, rest)
    | none => (none, .word w :: rest)
  | rest => (none, rest)

def readRef (es : List Expr) : Except ModuleFault (Ref × List Expr) :=
  match takeRef es with
  | (some r, rest) => .ok (r, rest)
  | _ => refuse "expected an index"

def readRefs (es : List Expr) : Except ModuleFault (List Ref) :=
  es.mapM fun
    | .word w => (refOf w).elim (refuse "expected an index") .ok
    | _ => refuse "expected an index"

def Ref.resolve (names : List (Option String)) : Ref → Except ModuleFault Nat
  | index i => .ok i
  | name n =>
    match names.findIdx? (· = some n) with
    | some i => .ok i
    | none => refuse ("unknown identifier " ++ n)

def readHeapType : Expr → Except ModuleFault ValType
  | .word "func" => .ok .funcref
  | .word "extern" => .ok .externref
  | _ => refuse "expected a heap type"

def readValType : Expr → Except ModuleFault ValType
  | .word "i32" => .ok .i32
  | .word "i64" => .ok .i64
  | .word "f32" => .ok .f32
  | .word "f64" => .ok .f64
  | .word "v128" => .ok .v128
  | .word "funcref" | .word "anyfunc" => .ok .funcref
  | .word "externref" => .ok .externref
  | .list [.word "ref", .word "null", heap] => readHeapType heap
  | _ => refuse "expected a value type"

def takeDeclarations (word : String) :
    List Expr → Except ModuleFault (List (Option String × ValType) × List Expr)
  | .list (.word w :: items) :: rest =>
    if w = word then do
      let here ←
        match takeName items with
        | (some name, [type]) => do pure [(some name, ← readValType type)]
        | (some _, _) => refuse "expected one type"
        | (none, types) => types.mapM fun t => do pure (none, ← readValType t)
      let (more, rest) ← takeDeclarations word rest
      return (here ++ more, rest)
    else .ok ([], .list (.word w :: items) :: rest)
  | rest => .ok ([], rest)

def startsList (word : String) : List Expr → Bool
  | .list (.word w :: _) :: _ => w = word
  | _ => false

structure TypeUse where
  ref : Option Ref
  inline : Option FuncType
  names : List (Option String)
  deriving DecidableEq, Repr

def takeTypeUse (es : List Expr) : Except ModuleFault (TypeUse × List Expr) := do
  let (ref, es) ←
    match es with
    | .list (.word "type" :: items) :: rest => do
      match ← readRef items with
      | (r, []) => pure (some r, rest)
      | _ => refuse "expected an index of a type"
    | es => pure (none, es)
  let isInline := startsList "param" es || startsList "result" es
  let (params, es) ← takeDeclarations "param" es
  let (results, es) ← takeDeclarations "result" es
  if results.any (·.1.isSome) then refuse "a result has no identifier"
  let type : FuncType := ⟨params.map Prod.snd, results.map Prod.snd⟩
  return (⟨ref, if isInline then some type else none, params.map Prod.fst⟩, es)

def takeNamelessTypeUse (es : List Expr) : Except ModuleFault (TypeUse × List Expr) := do
  let (use, es) ← takeTypeUse es
  if use.names.any Option.isSome then refuse "a parameter of a block has no identifier"
  else return (use, es)

inductive Immediate where
  | bytes (bytes : List UInt8)
  | refs (refs : List (IndexSpace × Ref))
  | branches (targets : List Ref) (otherwise : Ref)
  | block (label : Option String) (type : TypeUse)
  | close (ends : Bool) (label : Option String)
  | indirect (type : TypeUse) (table : Ref)
  | access (align offset : Nat) (memory : Ref) (lane : List UInt8)

structure Instruction where
  opcode : List UInt8
  immediate : Immediate

def takeField (field : String) (es : List Expr) : Except ModuleFault (Option Nat × List Expr) :=
  match es with
  | .word w :: rest =>
    if w.startsWith (field ++ "=") then
      match (readNatural (w.toList.drop (field.length + 1))).filter (· < UInt64.size) with
      | some n => .ok (some n, rest)
      | none => refuse "expected a number"
    else .ok (none, es)
  | _ => .ok (none, es)

def takeAccess (bytes : Nat) (es : List Expr) :
    Except ModuleFault ((List UInt8 → Immediate) × List Expr) := do
  let (memory, es) := takeRef es
  let (offset, es) ← takeField "offset" es
  let (align, es) ← takeField "align" es
  let align := align.getD bytes
  if align = 0 ∨ Nat.pow 2 align.log2 ≠ align then refuse "alignment must be a power of two"
  else return (.access align.log2 (offset.getD 0) (memory.getD (.index 0)), es)

def takeLane (es : List Expr) : Except ModuleFault (UInt8 × List Expr) :=
  match es with
  | .word w :: rest =>
    match readInteger 8 w.toList with
    | some n => .ok (UInt8.ofNat n, rest)
    | none => refuse "expected a lane"
  | _ => refuse "expected a lane"

def isInteger : Expr → Bool
  | .word w => (takeSign w.toList).2.head?.any Digits.isDecimal && !w.toList.contains '.'
  | _ => false

def isField : Expr → Bool
  | .word w => w.startsWith "offset=" ∨ w.startsWith "align="
  | _ => false

def startsAccess : List Expr → Bool
  | [] => true
  | [e] => !isInteger e
  | e :: next :: _ => !isInteger e || isInteger next || isField next

def takeNumbers (read : List Char → Option (List UInt8)) :
    Nat → List Expr → Except ModuleFault (List UInt8 × List Expr)
  | 0, es => .ok ([], es)
  | count + 1, .word w :: es =>
    match read w.toList with
    | some bytes => do
      let (more, es) ← takeNumbers read count es
      return (bytes ++ more, es)
    | none => refuse "invalid number"
  | _ + 1, _ => refuse "expected a number"

def intBytes (count : Nat) (cs : List Char) : Option (List UInt8) :=
  (readInteger (8 * count) cs).map (littleEndian count)

def floatBytes (f : Ieee.Format) (cs : List Char) : Option (List UInt8) :=
  (readFloat f cs).map (littleEndian ((f.precision + f.exponentBits) / 8))

def vectorParts : String → Option (Nat × (List Char → Option (List UInt8)))
  | "i8x16" => some (16, intBytes 1)
  | "i16x8" => some (8, intBytes 2)
  | "i32x4" => some (4, intBytes 4)
  | "i64x2" => some (2, intBytes 8)
  | "f32x4" => some (4, floatBytes Ieee.binary32)
  | "f64x2" => some (2, floatBytes Ieee.binary64)
  | _ => none

def takeVector : List Expr → Except ModuleFault (List UInt8 × List Expr)
  | .word shape :: es =>
    match vectorParts shape with
    | some (count, read) => takeNumbers read count es
    | none => refuse "expected a shape"
  | _ => refuse "expected a shape"

def toSigned (bits n : Nat) : Int :=
  if n < Nat.pow 2 (bits - 1) then n else (n : Int) - Nat.pow 2 bits

def Shape.read (shape : Shape) (opcode : List UInt8) (es : List Expr) :
    Except ModuleFault (Instruction × List Expr) := do
  match shape with
  | plain => return (⟨opcode, .bytes []⟩, es)
  | block =>
    let (label, es) := takeName es
    let (type, es) ← takeNamelessTypeUse es
    return (⟨opcode, .block label type⟩, es)
  | close ends =>
    let (label, es) := takeName es
    return (⟨opcode, .close ends label⟩, es)
  | one space =>
    let (r, es) ← readRef es
    return (⟨opcode, .refs [(space, r)]⟩, es)
  | optional space =>
    let (r, es) := takeRef es
    return (⟨opcode, .refs [(space, r.getD (.index 0))]⟩, es)
  | copy space =>
    match takeRef es with
    | (some dst, es) =>
      let (source, es) ← readRef es
      return (⟨opcode, .refs [(space, dst), (space, source)]⟩, es)
    | (none, es) => return (⟨opcode, .refs [(space, .index 0), (space, .index 0)]⟩, es)
  | init target source =>
    let (first, es) ← readRef es
    match takeRef es with
    | (some second, es) => return (⟨opcode, .refs [(source, second), (target, first)]⟩, es)
    | (none, es) => return (⟨opcode, .refs [(source, first), (target, .index 0)]⟩, es)
  | branches =>
    let words := es.takeWhile fun | .word w => (refOf w).isSome | _ => false
    match (← readRefs words).reverse with
    | otherwise :: targets =>
      return (⟨opcode, .branches targets.reverse otherwise⟩, es.drop words.length)
    | [] => refuse "expected an index of a label"
  | indirect =>
    let (before, es) := takeRef es
    let (type, es) ← takeNamelessTypeUse es
    let (after, es) := if before.isNone then takeRef es else (none, es)
    return (⟨opcode, .indirect type ((before.or after).getD (.index 0))⟩, es)
  | select =>
    let (types, rest) ← takeDeclarations "result" es
    if startsList "result" es then
      return (⟨[0x1c], .bytes (Binary.writeTypes (types.map Prod.snd))⟩, rest)
    else return (⟨[0x1b], .bytes []⟩, es)
  | heap =>
    match es with
    | e :: es => return (⟨opcode, .bytes [Binary.writeValType (← readHeapType e)]⟩, es)
    | [] => refuse "expected a heap type"
  | integer bits =>
    match es with
    | .word w :: es =>
      match readInteger bits w.toList with
      | some n => return (⟨opcode, .bytes (Binary.writeSigned (toSigned bits n))⟩, es)
      | none => refuse "invalid constant"
    | _ => refuse "expected a constant"
  | float f =>
    let (bytes, es) ← takeNumbers (floatBytes f) 1 es
    return (⟨opcode, .bytes bytes⟩, es)
  | vector =>
    let (bytes, es) ← takeVector es
    return (⟨opcode, .bytes bytes⟩, es)
  | access bytes =>
    let (make, es) ← takeAccess bytes es
    return (⟨opcode, make []⟩, es)
  | lane =>
    let (i, es) ← takeLane es
    return (⟨opcode, .bytes [i]⟩, es)
  | lanes =>
    let (bytes, es) ← takeNumbers (intBytes 1) 16 es
    return (⟨opcode, .bytes bytes⟩, es)
  | laneAccess bytes =>
    let (make, es) ← if startsAccess es then takeAccess bytes es else takeAccess bytes []
    let (i, es) ← takeLane es
    return (⟨opcode, make [i]⟩, es)

def readInstruction (word : String) (es : List Expr) :
    Except ModuleFault (Instruction × List Expr) :=
  match mnemonics.find? (·.word = word) with
  | some m => m.shape.read m.opcode es
  | none => refuse ("unknown operator or unexpected token: " ++ word)

def Expr.isList : Expr → Bool
  | list _ => true
  | _ => false

def elseInstruction : Instruction :=
  ⟨[0x05], .close false none⟩

def endInstruction : Instruction :=
  ⟨[0x0b], .close true none⟩

def splitArms (es : List Expr) : Except ModuleFault (List Expr × List Expr × Option (List Expr)) :=
  let condition := es.takeWhile fun e => !startsList "then" [e]
  if condition.all Expr.isList then
    match es.drop condition.length with
    | [.list (_ :: yes)] => .ok (condition, yes, none)
    | [.list (_ :: yes), .list (.word "else" :: no)] => .ok (condition, yes, some no)
    | _ => refuse "unexpected token in an if"
  else refuse "expected an expression"

/-- Instructions one after the other. Those in parentheses come after their operands, blocks before
their bodies. -/
def flatten : Nat → List Expr → Except ModuleFault (List Instruction)
  | 0, _ => refuse "no end of the code"
  | _, [] => .ok []
  | steps + 1, .word w :: rest => do
    let (i, rest) ← readInstruction w rest
    return i :: (← flatten steps rest)
  | steps + 1, .list (.word w :: es) :: rest => do
    let (i, es) ← readInstruction w es
    let here ←
      match i.immediate with
      | .block .. =>
        if w = "if" then do
          let (condition, yes, no) ← splitArms es
          let condition ← flatten steps condition
          let yes ← flatten steps yes
          let no ←
            match no with
            | some no => do pure (elseInstruction :: (← flatten steps no))
            | none => pure []
          pure (condition ++ i :: yes ++ no ++ [endInstruction])
        else do pure (i :: (← flatten steps es) ++ [endInstruction])
      | _ => do pure ((← flatten steps es) ++ [i])
    return here ++ (← flatten steps rest)
  | _, _ => refuse "expected an instruction"

/-- The function types that code writes out. Blocks without parameters and with at most one result
need none. -/
def Immediate.inlineType : Immediate → Option FuncType
  | block _ ⟨none, some type, _⟩ =>
    if type.params.isEmpty ∧ type.results.length ≤ 1 then none else some type
  | indirect ⟨none, type, _⟩ _ => some (type.getD ⟨[], []⟩)
  | _ => none

def inlineTypes (is : List Instruction) : List FuncType :=
  is.filterMap (·.immediate.inlineType)

structure Scope where
  types : List FuncType := []
  names : IndexSpace → List (Option String) := fun _ => []

def Scope.resolve (scope : Scope) (space : IndexSpace) (r : Ref) : Except ModuleFault Nat :=
  r.resolve (scope.names space)

def Scope.typeIndex (scope : Scope) (use : TypeUse) : Except ModuleFault Nat := do
  match use.ref with
  | some r =>
    let i ← scope.resolve .type r
    match scope.types[i]?, use.inline with
    | some declared, some type =>
      if declared = type then return i else refuse "inline function type does not match"
    | _, _ => return i
  | none =>
    match scope.types.findIdx? (· = use.inline.getD ⟨[], []⟩) with
    | some i => return i
    | none => refuse "unknown type"

def Scope.write (scope : Scope) (space : IndexSpace) (r : Ref) :
    Except ModuleFault (List UInt8) := do
  return Binary.writeUnsigned (← scope.resolve space r)

def Scope.writeBlockType (scope : Scope) (use : TypeUse) : Except ModuleFault (List UInt8) :=
  match use.ref, use.inline.getD ⟨[], []⟩ with
  | none, ⟨[], []⟩ => .ok [0x40]
  | none, ⟨[], [t]⟩ => .ok [Binary.writeValType t]
  | _, _ => do return Binary.writeSigned (← scope.typeIndex use)

def Scope.writeImmediate (scope : Scope) (labels : List (Option String)) :
    Immediate → Except ModuleFault (List UInt8 × List (Option String))
  | .bytes bytes => .ok (bytes, labels)
  | .refs refs => do
    let names (space : IndexSpace) := if space = .label then labels else scope.names space
    let written ← refs.mapM fun r => do return Binary.writeUnsigned (← r.2.resolve (names r.1))
    return (written.flatten, labels)
  | .branches targets otherwise => do
    let targets ← targets.mapM fun r => do return Binary.writeUnsigned (← r.resolve labels)
    let otherwise ← otherwise.resolve labels
    return (Binary.writeVector targets ++ Binary.writeUnsigned otherwise, labels)
  | .block label type => do return (← scope.writeBlockType type, label :: labels)
  | .close ends label =>
    if label.isSome ∧ labels.head?.any (· ≠ label) then refuse "mismatching labels"
    else .ok ([], if ends then labels.tail else labels)
  | .indirect type table => do
    let type ← scope.typeIndex type
    return (Binary.writeUnsigned type ++ (← scope.write .table table), labels)
  | .access align offset memory lane => do
    let memory ← scope.resolve .memory memory
    let place :=
      if memory = 0 then Binary.writeUnsigned align
      else Binary.writeUnsigned (align + 64) ++ Binary.writeUnsigned memory
    return (place ++ Binary.writeUnsigned offset ++ lane, labels)

def Scope.writeCode (scope : Scope) :
    List (Option String) → List Instruction → Except ModuleFault (List UInt8)
  | _, [] => .ok [0x0b]
  | labels, i :: is => do
    let (bytes, labels) ← scope.writeImmediate labels i.immediate
    return i.opcode ++ bytes ++ (← scope.writeCode labels is)

end ModuleHost.Wasm.Text
