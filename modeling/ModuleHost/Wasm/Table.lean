import ModuleHost.Wasm.Numeric

namespace ModuleHost.Wasm

def nullRef : Slot := 0

def funcRef (f : Nat) : Slot :=
  f + 1

structure Table where
  size : Nat
  maxSize : Nat
  touched : Array Slot
  deriving DecidableEq

namespace Table

def ofSize (size maxSize : Nat) : Table :=
  ⟨size, maxSize, #[]⟩

def get (t : Table) (i : Nat) : Slot :=
  t.touched.getD i nullRef

def contains (t : Table) (i count : Nat) : Bool :=
  i + count ≤ t.size

def read (t : Table) (i : Nat) : Nat → List Slot
  | 0 => []
  | count + 1 => t.get i :: t.read (i + 1) count

def overwrite (i : Nat) : List Slot → Array Slot → Array Slot
  | [], a => a
  | x :: xs, a => overwrite (i + 1) xs (a.setIfInBounds i x)

def write (t : Table) (i : Nat) (entries : List Slot) : Table :=
  if entries.isEmpty then t
  else
    let missing := i + entries.length - t.touched.size
    { t with touched := overwrite i entries (t.touched ++ Array.replicate missing nullRef) }

def mayGrow (t : Table) (delta : Nat) : Bool :=
  delta = 0 ∨ t.size + delta ≤ t.maxSize

def grow (t : Table) (delta : Nat) (entry : Slot) : Table :=
  let grown := { t with size := t.size + delta }
  if entry = nullRef then grown else grown.write t.size (List.replicate delta entry)

end Table

end ModuleHost.Wasm
