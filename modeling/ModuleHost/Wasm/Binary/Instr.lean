import ModuleHost.Value.Basic
import ModuleHost.Wasm.Binary.Reader
import ModuleHost.Wasm.Binary.Vector
import ModuleHost.Wasm.Module

namespace ModuleHost.Wasm.Binary

/-- An access to memory. A flag in the alignment says that a memory index follows. -/
def memArg : Reader MemArg := do
  let flags ← u32
  let hasMemory := 64 ≤ flags % 128
  let memory ← if hasMemory then u32 else pure 0
  let align := if hasMemory then flags - 64 else flags
  if 64 ≤ align then refuse (.malformed "alignment")
  else
    let offset ← u32
    return ⟨memory, align, offset⟩

def load (type : ValType) (bytes : Nat) (signed : Bool) : Reader Op := do
  return .memory (.load type bytes signed (← memArg))

def store (type : ValType) (bytes : Nat) : Reader Op := do
  return .memory (.store type bytes (← memArg))

def constant (type : ValType) (bytes : Nat) : Reader Op := do
  return .const type (ofLittleEndian (← take bytes))

def typedSelect : Reader Op := do
  match ← vector valType with
  | [t] => return .select (some t)
  | _ => refuse (.malformed "select")

def plainOp : UInt8 → Option Op
  | 0x01 => some .nop
  | 0x1a => some .drop
  | 0x1b => some (.select none)
  | 0x45 => some (.unary (.isZero .w32))
  | 0x46 => some (.binary (.intCompare .w32 .eq))
  | 0x47 => some (.binary (.intCompare .w32 .ne))
  | 0x48 => some (.binary (.intCompare .w32 .ltS))
  | 0x49 => some (.binary (.intCompare .w32 .ltU))
  | 0x4a => some (.binary (.intCompare .w32 .gtS))
  | 0x4b => some (.binary (.intCompare .w32 .gtU))
  | 0x4c => some (.binary (.intCompare .w32 .leS))
  | 0x4d => some (.binary (.intCompare .w32 .leU))
  | 0x4e => some (.binary (.intCompare .w32 .geS))
  | 0x4f => some (.binary (.intCompare .w32 .geU))
  | 0x50 => some (.unary (.isZero .w64))
  | 0x51 => some (.binary (.intCompare .w64 .eq))
  | 0x52 => some (.binary (.intCompare .w64 .ne))
  | 0x53 => some (.binary (.intCompare .w64 .ltS))
  | 0x54 => some (.binary (.intCompare .w64 .ltU))
  | 0x55 => some (.binary (.intCompare .w64 .gtS))
  | 0x56 => some (.binary (.intCompare .w64 .gtU))
  | 0x57 => some (.binary (.intCompare .w64 .leS))
  | 0x58 => some (.binary (.intCompare .w64 .leU))
  | 0x59 => some (.binary (.intCompare .w64 .geS))
  | 0x5a => some (.binary (.intCompare .w64 .geU))
  | 0x5b => some (.binary (.floatCompare .w32 .eq))
  | 0x5c => some (.binary (.floatCompare .w32 .ne))
  | 0x5d => some (.binary (.floatCompare .w32 .lt))
  | 0x5e => some (.binary (.floatCompare .w32 .gt))
  | 0x5f => some (.binary (.floatCompare .w32 .le))
  | 0x60 => some (.binary (.floatCompare .w32 .ge))
  | 0x61 => some (.binary (.floatCompare .w64 .eq))
  | 0x62 => some (.binary (.floatCompare .w64 .ne))
  | 0x63 => some (.binary (.floatCompare .w64 .lt))
  | 0x64 => some (.binary (.floatCompare .w64 .gt))
  | 0x65 => some (.binary (.floatCompare .w64 .le))
  | 0x66 => some (.binary (.floatCompare .w64 .ge))
  | 0x67 => some (.unary (.int .w32 .clz))
  | 0x68 => some (.unary (.int .w32 .ctz))
  | 0x69 => some (.unary (.int .w32 .popcnt))
  | 0x6a => some (.binary (.int .w32 .add))
  | 0x6b => some (.binary (.int .w32 .sub))
  | 0x6c => some (.binary (.int .w32 .mul))
  | 0x6d => some (.binary (.int .w32 .divS))
  | 0x6e => some (.binary (.int .w32 .divU))
  | 0x6f => some (.binary (.int .w32 .remS))
  | 0x70 => some (.binary (.int .w32 .remU))
  | 0x71 => some (.binary (.int .w32 .and))
  | 0x72 => some (.binary (.int .w32 .or))
  | 0x73 => some (.binary (.int .w32 .xor))
  | 0x74 => some (.binary (.int .w32 .shl))
  | 0x75 => some (.binary (.int .w32 .shrS))
  | 0x76 => some (.binary (.int .w32 .shrU))
  | 0x77 => some (.binary (.int .w32 .rotl))
  | 0x78 => some (.binary (.int .w32 .rotr))
  | 0x79 => some (.unary (.int .w64 .clz))
  | 0x7a => some (.unary (.int .w64 .ctz))
  | 0x7b => some (.unary (.int .w64 .popcnt))
  | 0x7c => some (.binary (.int .w64 .add))
  | 0x7d => some (.binary (.int .w64 .sub))
  | 0x7e => some (.binary (.int .w64 .mul))
  | 0x7f => some (.binary (.int .w64 .divS))
  | 0x80 => some (.binary (.int .w64 .divU))
  | 0x81 => some (.binary (.int .w64 .remS))
  | 0x82 => some (.binary (.int .w64 .remU))
  | 0x83 => some (.binary (.int .w64 .and))
  | 0x84 => some (.binary (.int .w64 .or))
  | 0x85 => some (.binary (.int .w64 .xor))
  | 0x86 => some (.binary (.int .w64 .shl))
  | 0x87 => some (.binary (.int .w64 .shrS))
  | 0x88 => some (.binary (.int .w64 .shrU))
  | 0x89 => some (.binary (.int .w64 .rotl))
  | 0x8a => some (.binary (.int .w64 .rotr))
  | 0x8b => some (.unary (.float .w32 .abs))
  | 0x8c => some (.unary (.float .w32 .neg))
  | 0x8d => some (.unary (.float .w32 .ceil))
  | 0x8e => some (.unary (.float .w32 .floor))
  | 0x8f => some (.unary (.float .w32 .trunc))
  | 0x90 => some (.unary (.float .w32 .nearest))
  | 0x91 => some (.unary (.float .w32 .sqrt))
  | 0x92 => some (.binary (.float .w32 .add))
  | 0x93 => some (.binary (.float .w32 .sub))
  | 0x94 => some (.binary (.float .w32 .mul))
  | 0x95 => some (.binary (.float .w32 .div))
  | 0x96 => some (.binary (.float .w32 .min))
  | 0x97 => some (.binary (.float .w32 .max))
  | 0x98 => some (.binary (.float .w32 .copysign))
  | 0x99 => some (.unary (.float .w64 .abs))
  | 0x9a => some (.unary (.float .w64 .neg))
  | 0x9b => some (.unary (.float .w64 .ceil))
  | 0x9c => some (.unary (.float .w64 .floor))
  | 0x9d => some (.unary (.float .w64 .trunc))
  | 0x9e => some (.unary (.float .w64 .nearest))
  | 0x9f => some (.unary (.float .w64 .sqrt))
  | 0xa0 => some (.binary (.float .w64 .add))
  | 0xa1 => some (.binary (.float .w64 .sub))
  | 0xa2 => some (.binary (.float .w64 .mul))
  | 0xa3 => some (.binary (.float .w64 .div))
  | 0xa4 => some (.binary (.float .w64 .min))
  | 0xa5 => some (.binary (.float .w64 .max))
  | 0xa6 => some (.binary (.float .w64 .copysign))
  | 0xa7 => some (.unary .wrap)
  | 0xa8 => some (.unary (.truncate .w32 .w32 true))
  | 0xa9 => some (.unary (.truncate .w32 .w32 false))
  | 0xaa => some (.unary (.truncate .w64 .w32 true))
  | 0xab => some (.unary (.truncate .w64 .w32 false))
  | 0xac => some (.unary (.extend true))
  | 0xad => some (.unary (.extend false))
  | 0xae => some (.unary (.truncate .w32 .w64 true))
  | 0xaf => some (.unary (.truncate .w32 .w64 false))
  | 0xb0 => some (.unary (.truncate .w64 .w64 true))
  | 0xb1 => some (.unary (.truncate .w64 .w64 false))
  | 0xb2 => some (.unary (.convert .w32 true .w32))
  | 0xb3 => some (.unary (.convert .w32 false .w32))
  | 0xb4 => some (.unary (.convert .w64 true .w32))
  | 0xb5 => some (.unary (.convert .w64 false .w32))
  | 0xb6 => some (.unary .demote)
  | 0xb7 => some (.unary (.convert .w32 true .w64))
  | 0xb8 => some (.unary (.convert .w32 false .w64))
  | 0xb9 => some (.unary (.convert .w64 true .w64))
  | 0xba => some (.unary (.convert .w64 false .w64))
  | 0xbb => some (.unary .promote)
  | 0xbc => some (.unary (.reinterpretFloat .w32))
  | 0xbd => some (.unary (.reinterpretFloat .w64))
  | 0xbe => some (.unary (.reinterpretInt .w32))
  | 0xbf => some (.unary (.reinterpretInt .w64))
  | 0xc0 => some (.unary (.int .w32 .extend8))
  | 0xc1 => some (.unary (.int .w32 .extend16))
  | 0xc2 => some (.unary (.int .w64 .extend8))
  | 0xc3 => some (.unary (.int .w64 .extend16))
  | 0xc4 => some (.unary (.int .w64 .extend32))
  | 0xd1 => some .refIsNull
  | _ => none

def miscOp : Reader Op := do
  match ← u32 with
  | 0 => return .unary (.truncateSat .w32 .w32 true)
  | 1 => return .unary (.truncateSat .w32 .w32 false)
  | 2 => return .unary (.truncateSat .w64 .w32 true)
  | 3 => return .unary (.truncateSat .w64 .w32 false)
  | 4 => return .unary (.truncateSat .w32 .w64 true)
  | 5 => return .unary (.truncateSat .w32 .w64 false)
  | 6 => return .unary (.truncateSat .w64 .w64 true)
  | 7 => return .unary (.truncateSat .w64 .w64 false)
  | 8 =>
    let data ← u32
    return .memory (.init (← u32) data)
  | 9 => return .memory (.drop (← u32))
  | 10 =>
    let dst ← u32
    return .memory (.copy dst (← u32))
  | 11 => return .memory (.fill (← u32))
  | 12 =>
    let elem ← u32
    return .table (.init (← u32) elem)
  | 13 => return .table (.drop (← u32))
  | 14 =>
    let dst ← u32
    return .table (.copy dst (← u32))
  | 15 => return .table (.grow (← u32))
  | 16 => return .table (.size (← u32))
  | 17 => return .table (.fill (← u32))
  | _ => refuse (.unknownOpcode 0xfc)

def laneAccess (make : Nat → MemArg → MemoryOp) : Reader Op := do
  let arg ← memArg
  return .memory (make (← byte).toNat arg)

def vectorOp : Reader Op := do
  match ← u32 with
  | 0 => load .v128 16 false
  | 11 => store .v128 16
  | 12 => constant .v128 16
  | 13 => return .vector (.binary (.shuffle ((← take 16).map UInt8.toNat)))
  | 92 => return .memory (.vectorLoad (.zero .w32) (← memArg))
  | 93 => return .memory (.vectorLoad (.zero .w64) (← memArg))
  | n =>
    match numberedFrom 1 vectorLoads n, numberedFrom 21 laneOps n,
      numberedFrom 84 laneWidths n, numberedFrom 88 laneWidths n, plainVectorOp n with
    | some how, _, _, _, _ => return .memory (.vectorLoad how (← memArg))
    | _, some make, _, _, _ => return .vector (make (← byte).toNat)
    | _, _, some w, _, _ => laneAccess (.laneLoad w)
    | _, _, _, some w, _ => laneAccess (.laneStore w)
    | _, _, _, _, some op => return .vector op
    | _, _, _, _, _ => refuse (.unknownOpcode 0xfd)

def operator (b : UInt8) : Reader Op := do
  match b with
  | 0x1c => typedSelect
  | 0x20 => return .var (.localGet (← u32))
  | 0x21 => return .var (.localSet (← u32))
  | 0x22 => return .var (.localTee (← u32))
  | 0x23 => return .var (.globalGet (← u32))
  | 0x24 => return .var (.globalSet (← u32))
  | 0x25 => return .table (.get (← u32))
  | 0x26 => return .table (.set (← u32))
  | 0x28 => load .i32 4 false
  | 0x29 => load .i64 8 false
  | 0x2a => load .f32 4 false
  | 0x2b => load .f64 8 false
  | 0x2c => load .i32 1 true
  | 0x2d => load .i32 1 false
  | 0x2e => load .i32 2 true
  | 0x2f => load .i32 2 false
  | 0x30 => load .i64 1 true
  | 0x31 => load .i64 1 false
  | 0x32 => load .i64 2 true
  | 0x33 => load .i64 2 false
  | 0x34 => load .i64 4 true
  | 0x35 => load .i64 4 false
  | 0x36 => store .i32 4
  | 0x37 => store .i64 8
  | 0x38 => store .f32 4
  | 0x39 => store .f64 8
  | 0x3a => store .i32 1
  | 0x3b => store .i32 2
  | 0x3c => store .i64 1
  | 0x3d => store .i64 2
  | 0x3e => store .i64 4
  | 0x3f => return .memory (.size (← u32))
  | 0x40 => return .memory (.grow (← u32))
  | 0x41 =>
    let n ← signed 32
    return .const .i32 (n % UInt32.size).toNat
  | 0x42 =>
    let n ← signed 64
    return .const .i64 (n % UInt64.size).toNat
  | 0x43 => constant .f32 4
  | 0x44 => constant .f64 8
  | 0xd0 => return .refNull (← refType)
  | 0xd2 => return .refFunc (← u32)
  | 0xfc => miscOp
  | 0xfd => vectorOp
  | _ =>
    match plainOp b with
    | some op => return op
    | none => refuse (.unknownOpcode b)

def blockType : Reader BlockType := do
  let b ← peek
  if b = 0x40 then
    let _ ← byte
    return .empty
  else
    match valTypeOf b with
    | some t =>
      let _ ← byte
      return .result t
    | none =>
      let i ← signed 33
      if i < 0 then refuse (.malformed "block type") else return .func i.toNat

inductive Terminator where
  | blockEnd
  | elseBranch
  deriving DecidableEq, Repr

def sequence : Nat → List Instr → Reader (List Instr × Terminator)
  | 0, _ => refuse .unexpectedEnd
  | steps + 1, read => do
    match ← byte with
    | 0x0b => return (read.reverse, .blockEnd)
    | 0x05 => return (read.reverse, .elseBranch)
    | 0x00 => sequence steps (.unreachable :: read)
    | 0x02 =>
      let type ← blockType
      match ← sequence steps [] with
      | (body, .blockEnd) => sequence steps (.block type body :: read)
      | _ => refuse (.malformed "block")
    | 0x03 =>
      let type ← blockType
      match ← sequence steps [] with
      | (body, .blockEnd) => sequence steps (.loop type body :: read)
      | _ => refuse (.malformed "loop")
    | 0x04 =>
      let type ← blockType
      match ← sequence steps [] with
      | (yes, .blockEnd) => sequence steps (.ifElse type yes [] :: read)
      | (yes, .elseBranch) =>
        match ← sequence steps [] with
        | (no, .blockEnd) => sequence steps (.ifElse type yes no :: read)
        | _ => refuse (.malformed "if")
    | 0x0c =>
      let label ← u32
      sequence steps (.br label :: read)
    | 0x0d =>
      let label ← u32
      sequence steps (.brIf label :: read)
    | 0x0e =>
      let labels ← vector u32
      let otherwise ← u32
      sequence steps (.brTable labels otherwise :: read)
    | 0x0f => sequence steps (.ret :: read)
    | 0x10 =>
      let f ← u32
      sequence steps (.call f :: read)
    | 0x11 =>
      let type ← u32
      let table ← u32
      sequence steps (.callIndirect table type :: read)
    | 0x12 =>
      let f ← u32
      sequence steps (.returnCall f :: read)
    | 0x13 =>
      let type ← u32
      let table ← u32
      sequence steps (.returnCallIndirect table type :: read)
    | b =>
      let op ← operator b
      sequence steps (.op op :: read)

def expression : Reader (List Instr) := do
  let bs ← get
  match ← sequence (bs.length + 1) [] with
  | (body, .blockEnd) => return body
  | _ => refuse (.malformed "expression")

def constOps : Nat → Reader ConstExpr
  | 0 => refuse .unexpectedEnd
  | steps + 1 => do
    match ← byte with
    | 0x0b => return []
    | b =>
      let op ← operator b
      return op :: (← constOps steps)

def constExpr : Reader ConstExpr := do
  let bs ← get
  constOps (bs.length + 1)

end ModuleHost.Wasm.Binary
