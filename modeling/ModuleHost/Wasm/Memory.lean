import ModuleHost.Value.Basic

namespace ModuleHost.Wasm

def pageSize : Nat := 65536

structure Memory where
  pages : Nat
  maxPages : Nat
  touched : ByteArray

def pushZeros : Nat → ByteArray → ByteArray
  | 0, b => b
  | count + 1, b => pushZeros count (b.push 0)

namespace Memory

def ofPages (pages maxPages : Nat) : Memory :=
  ⟨pages, maxPages, ByteArray.empty⟩

def size (m : Memory) : Nat :=
  m.pages * pageSize

def get (m : Memory) (a : Nat) : UInt8 :=
  if h : a < m.touched.size then m.touched[a] else 0

def contains (m : Memory) (a count : Nat) : Bool :=
  a + count ≤ m.size

def overwrite (a : Nat) : List UInt8 → ByteArray → ByteArray
  | [], b => b
  | x :: xs, b => overwrite (a + 1) xs (b.set! a x)

def write (m : Memory) (a : Nat) (bytes : List UInt8) : Memory :=
  if bytes.isEmpty then m
  else
    let missing := a + bytes.length - m.touched.size
    { m with touched := overwrite a bytes (pushZeros missing m.touched) }

def read (m : Memory) (a : Nat) : Nat → List UInt8
  | 0 => []
  | count + 1 => m.get a :: m.read (a + 1) count

def readNat (m : Memory) (a : Nat) : Nat → Nat
  | 0 => 0
  | count + 1 => (m.get a).toNat + 256 * m.readNat (a + 1) count

def writeNat (m : Memory) (a count n : Nat) : Memory :=
  m.write a (littleEndian count n)

def mayGrow (m : Memory) (delta : Nat) : Bool :=
  delta = 0 ∨ m.pages + delta ≤ m.maxPages

def grow (m : Memory) (delta : Nat) : Memory :=
  { m with pages := m.pages + delta }

end Memory

end ModuleHost.Wasm
