import ModuleHost.Wasm.Types

namespace ModuleHost.Wasm

/-! ## Numeric operators -/

inductive IntWidth where
  | w32
  | w64
  deriving DecidableEq, Repr

inductive FloatWidth where
  | w32
  | w64
  deriving DecidableEq, Repr

def IntWidth.type : IntWidth → ValType
  | w32 => .i32
  | w64 => .i64

def FloatWidth.type : FloatWidth → ValType
  | w32 => .f32
  | w64 => .f64

inductive IntUnary where
  | clz
  | ctz
  | popcnt
  | extend8
  | extend16
  | extend32
  deriving DecidableEq, Repr

inductive IntBinary where
  | add
  | sub
  | mul
  | divS
  | divU
  | remS
  | remU
  | and
  | or
  | xor
  | shl
  | shrS
  | shrU
  | rotl
  | rotr
  deriving DecidableEq, Repr

inductive IntCompare where
  | eq
  | ne
  | ltS
  | ltU
  | gtS
  | gtU
  | leS
  | leU
  | geS
  | geU
  deriving DecidableEq, Repr

inductive FloatUnary where
  | abs
  | neg
  | ceil
  | floor
  | trunc
  | nearest
  | sqrt
  deriving DecidableEq, Repr

inductive FloatBinary where
  | add
  | sub
  | mul
  | div
  | min
  | max
  | copysign
  deriving DecidableEq, Repr

inductive FloatCompare where
  | eq
  | ne
  | lt
  | gt
  | le
  | ge
  deriving DecidableEq, Repr

inductive Unary where
  | isZero (w : IntWidth)
  | int (w : IntWidth) (op : IntUnary)
  | float (w : FloatWidth) (op : FloatUnary)
  | wrap
  | extend (signed : Bool)
  | truncate (source : FloatWidth) (target : IntWidth) (signed : Bool)
  | truncateSat (source : FloatWidth) (target : IntWidth) (signed : Bool)
  | convert (source : IntWidth) (signed : Bool) (target : FloatWidth)
  | demote
  | promote
  | reinterpretFloat (w : FloatWidth)
  | reinterpretInt (w : FloatWidth)
  deriving DecidableEq, Repr

inductive Binary where
  | int (w : IntWidth) (op : IntBinary)
  | intCompare (w : IntWidth) (op : IntCompare)
  | float (w : FloatWidth) (op : FloatBinary)
  | floatCompare (w : FloatWidth) (op : FloatCompare)
  deriving DecidableEq, Repr

def FloatWidth.intType : FloatWidth → ValType
  | w32 => .i32
  | w64 => .i64

def Unary.type : Unary → ValType × ValType
  | isZero w => (w.type, .i32)
  | int w _ => (w.type, w.type)
  | float w _ => (w.type, w.type)
  | wrap => (.i64, .i32)
  | extend _ => (.i32, .i64)
  | truncate source target _ => (source.type, target.type)
  | truncateSat source target _ => (source.type, target.type)
  | convert source _ target => (source.type, target.type)
  | demote => (.f64, .f32)
  | promote => (.f32, .f64)
  | reinterpretFloat w => (w.type, w.intType)
  | reinterpretInt w => (w.intType, w.type)

def Binary.type : Binary → ValType × ValType
  | int w _ => (w.type, w.type)
  | intCompare w _ => (w.type, .i32)
  | float w _ => (w.type, w.type)
  | floatCompare w _ => (w.type, .i32)

/-! ## Vectors -/

inductive LaneWidth where
  | w8
  | w16
  | w32
  | w64
  deriving DecidableEq, Repr

namespace LaneWidth

def bits : LaneWidth → Nat
  | w8 => 8
  | w16 => 16
  | w32 => 32
  | w64 => 64

def bytes : LaneWidth → Nat
  | w8 => 1
  | w16 => 2
  | w32 => 4
  | w64 => 8

def count : LaneWidth → Nat
  | w8 => 16
  | w16 => 8
  | w32 => 4
  | w64 => 2

def double : LaneWidth → LaneWidth
  | w8 => w16
  | w16 => w32
  | w32 | w64 => w64

end LaneWidth

def FloatWidth.lane : FloatWidth → LaneWidth
  | w32 => .w32
  | w64 => .w64

inductive LaneShape where
  | int (w : LaneWidth)
  | float (w : FloatWidth)
  deriving DecidableEq, Repr

def LaneShape.width : LaneShape → LaneWidth
  | int w => w
  | float w => w.lane

def LaneShape.type : LaneShape → ValType
  | int .w64 => .i64
  | int _ => .i32
  | float w => w.type

inductive LaneUnary where
  | abs
  | neg
  | popcnt
  deriving DecidableEq, Repr

inductive LaneBinary where
  | add
  | sub
  | mul
  | min (signed : Bool)
  | max (signed : Bool)
  | addSat (signed : Bool)
  | subSat (signed : Bool)
  | average
  | mulQ15
  deriving DecidableEq, Repr

inductive LaneShift where
  | shl
  | shr (signed : Bool)
  deriving DecidableEq, Repr

inductive VectorUnary where
  | not
  | int (w : LaneWidth) (op : LaneUnary)
  | float (w : FloatWidth) (op : FloatUnary)
  | extend (w : LaneWidth) (high signed : Bool)
  | addPairs (w : LaneWidth) (signed : Bool)
  | truncateSat (source : FloatWidth) (signed : Bool)
  | convert (target : FloatWidth) (signed : Bool)
  | demote
  | promote
  deriving DecidableEq, Repr

inductive VectorBinary where
  | and
  | andNot
  | or
  | xor
  | int (w : LaneWidth) (op : LaneBinary)
  | intCompare (w : LaneWidth) (op : IntCompare)
  | float (w : FloatWidth) (op : FloatBinary)
  | floatCompare (w : FloatWidth) (op : FloatCompare)
  | pseudoMin (w : FloatWidth)
  | pseudoMax (w : FloatWidth)
  | narrow (target : LaneWidth) (signed : Bool)
  | mulHalves (w : LaneWidth) (high signed : Bool)
  | dot (w : LaneWidth)
  | swizzle
  | shuffle (lanes : List Nat)
  deriving DecidableEq, Repr

inductive VectorTernary where
  | bitSelect
  | mulAdd (w : FloatWidth) (negated : Bool)
  | dotAdd
  deriving DecidableEq, Repr

inductive VectorTest where
  | anyTrue
  | allTrue (w : LaneWidth)
  | bitmask (w : LaneWidth)
  deriving DecidableEq, Repr

inductive VectorOp where
  | unary (op : VectorUnary)
  | binary (op : VectorBinary)
  | ternary (op : VectorTernary)
  | test (op : VectorTest)
  | shift (w : LaneWidth) (op : LaneShift)
  | splat (shape : LaneShape)
  | extract (shape : LaneShape) (signed : Bool) (lane : Nat)
  | replace (shape : LaneShape) (lane : Nat)
  deriving DecidableEq, Repr

def VectorOp.type : VectorOp → List ValType × ValType
  | unary _ => ([.v128], .v128)
  | binary _ => ([.v128, .v128], .v128)
  | ternary _ => ([.v128, .v128, .v128], .v128)
  | test _ => ([.v128], .i32)
  | shift .. => ([.v128, .i32], .v128)
  | splat shape => ([shape.type], .v128)
  | extract shape .. => ([.v128], shape.type)
  | replace shape _ => ([.v128, shape.type], .v128)

def VectorOp.hasLanes : VectorOp → Bool
  | extract shape _ lane | replace shape lane => lane < shape.width.count
  | binary (.shuffle lanes) => lanes.all (· < 32)
  | _ => true

/-- What a load makes a vector of: lanes that are extended, one for all lanes, or the lowest one. -/
inductive VectorLoad where
  | extend (w : LaneWidth) (signed : Bool)
  | splat (w : LaneWidth)
  | zero (w : LaneWidth)
  deriving DecidableEq, Repr

def VectorLoad.bytes : VectorLoad → Nat
  | extend .. => 8
  | splat w | zero w => w.bytes

/-! ## Instructions -/

/-- The memory, the alignment as a power of two and the constant offset of an access. -/
structure MemArg where
  memory : Nat
  align : Nat
  offset : Nat
  deriving DecidableEq, Repr

inductive VarOp where
  | localGet (i : Nat)
  | localSet (i : Nat)
  | localTee (i : Nat)
  | globalGet (i : Nat)
  | globalSet (i : Nat)
  deriving DecidableEq, Repr

inductive MemoryOp where
  | load (type : ValType) (bytes : Nat) (signed : Bool) (arg : MemArg)
  | store (type : ValType) (bytes : Nat) (arg : MemArg)
  | vectorLoad (how : VectorLoad) (arg : MemArg)
  | laneLoad (w : LaneWidth) (lane : Nat) (arg : MemArg)
  | laneStore (w : LaneWidth) (lane : Nat) (arg : MemArg)
  | size (m : Nat)
  | grow (m : Nat)
  | fill (m : Nat)
  | copy (dst src : Nat)
  | init (m data : Nat)
  | drop (data : Nat)
  deriving DecidableEq, Repr

def MemoryOp.type : MemoryOp → FuncType
  | .load t .. => ⟨[.i32], [t]⟩
  | .store t .. => ⟨[.i32, t], []⟩
  | .vectorLoad .. => ⟨[.i32], [.v128]⟩
  | .laneLoad .. => ⟨[.i32, .v128], [.v128]⟩
  | .laneStore .. => ⟨[.i32, .v128], []⟩
  | .size _ => ⟨[], [.i32]⟩
  | .grow _ => ⟨[.i32], [.i32]⟩
  | .fill _ | .copy .. | .init .. => ⟨[.i32, .i32, .i32], []⟩
  | .drop _ => ⟨[], []⟩

inductive TableOp where
  | get (t : Nat)
  | set (t : Nat)
  | size (t : Nat)
  | grow (t : Nat)
  | fill (t : Nat)
  | copy (dst src : Nat)
  | init (t elem : Nat)
  | drop (elem : Nat)
  deriving DecidableEq, Repr

inductive Op where
  | nop
  | drop
  | select (type : Option ValType)
  | const (type : ValType) (bits : Nat)
  | unary (op : Unary)
  | binary (op : Binary)
  | vector (op : VectorOp)
  | var (op : VarOp)
  | memory (op : MemoryOp)
  | table (op : TableOp)
  | refNull (type : ValType)
  | refIsNull
  | refFunc (f : Nat)
  deriving DecidableEq, Repr

inductive BlockType where
  | empty
  | result (type : ValType)
  | func (index : Nat)
  deriving DecidableEq, Repr

inductive Instr where
  | op (o : Op)
  | unreachable
  | block (type : BlockType) (body : List Instr)
  | loop (type : BlockType) (body : List Instr)
  | ifElse (type : BlockType) (yes no : List Instr)
  | br (label : Nat)
  | brIf (label : Nat)
  | brTable (labels : List Nat) (otherwise : Nat)
  | ret
  | call (f : Nat)
  | callIndirect (table type : Nat)
  | returnCall (f : Nat)
  | returnCallIndirect (table type : Nat)
  deriving Repr

end ModuleHost.Wasm
