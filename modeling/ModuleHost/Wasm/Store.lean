import ModuleHost.Wasi
import ModuleHost.Wasm.Table

namespace ModuleHost.Wasm

/-- The state of a guest. A dropped segment is an empty one. -/
structure Store where
  memories : Array Memory
  tables : Array Table
  globals : Array Slot
  elems : Array (List Slot)
  datas : Array (List UInt8)
  wasi : Option Wasi.Context
  fuelSpent : Nat

namespace Store

def empty : Store :=
  ⟨#[], #[], #[], #[], #[], none, 0⟩

variable (s : Store)

def memory (i : Nat) : Memory :=
  s.memories.getD i (Memory.ofPages 0 0)

def modifyMemory (i : Nat) (f : Memory → Memory) : Store :=
  { s with memories := s.memories.modify i f }

def table (i : Nat) : Table :=
  s.tables.getD i (Table.ofSize 0 0)

def modifyTable (i : Nat) (f : Table → Table) : Store :=
  { s with tables := s.tables.modify i f }

def global (i : Nat) : Slot :=
  s.globals.getD i 0

def setGlobal (i : Nat) (v : Slot) : Store :=
  { s with globals := s.globals.setIfInBounds i v }

def elem (i : Nat) : List Slot :=
  s.elems.getD i []

def data (i : Nat) : List UInt8 :=
  s.datas.getD i []

def descriptors : Wasi.Context :=
  s.wasi.getD Wasi.Context.initial

def openWasi : Store :=
  { s with wasi := some s.descriptors }

def fitsTable (t dst : Nat) (entries : List Slot) (src count : Nat) : Bool :=
  src + count ≤ entries.length ∧ (s.table t).contains dst count

def initTable (t dst : Nat) (entries : List Slot) (src count : Nat) : Store :=
  s.modifyTable t fun t => t.write dst ((entries.drop src).take count)

def fitsMemory (m dst : Nat) (bytes : List UInt8) (src count : Nat) : Bool :=
  src + count ≤ bytes.length ∧ (s.memory m).contains dst count

def initMemory (m dst : Nat) (bytes : List UInt8) (src count : Nat) : Store :=
  s.modifyMemory m fun m => m.write dst ((bytes.drop src).take count)

end Store

end ModuleHost.Wasm
