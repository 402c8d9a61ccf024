import ModuleHost.Value.Basic
import ModuleHost.Wasm.Instr

namespace ModuleHost.Wasm.Binary

def writeUnsigned (n : Nat) : List UInt8 :=
  if n < 0x80 then [UInt8.ofNat n]
  else UInt8.ofNat (n % 0x80 + 0x80) :: writeUnsigned (n / 0x80)

def writeSigned (n : Int) : List UInt8 :=
  if -0x40 ≤ n ∧ n < 0x40 then [UInt8.ofNat (n % 0x80).toNat]
  else UInt8.ofNat ((n % 0x80).toNat + 0x80) :: writeSigned (n / 0x80)
termination_by n.natAbs
decreasing_by omega

def writeVector (items : List (List UInt8)) : List UInt8 :=
  writeUnsigned items.length ++ items.flatten

def writeBytes (bytes : List UInt8) : List UInt8 :=
  writeUnsigned bytes.length ++ bytes

def writeValType : ValType → UInt8
  | .i32 => 0x7f
  | .i64 => 0x7e
  | .f32 => 0x7d
  | .f64 => 0x7c
  | .v128 => 0x7b
  | .funcref => 0x70
  | .externref => 0x6f

def writeTypes (types : List ValType) : List UInt8 :=
  writeVector (types.map fun t => [writeValType t])

def writeFuncType (t : FuncType) : List UInt8 :=
  0x60 :: writeTypes t.params ++ writeTypes t.results

def writeLimits (l : Limits) : List UInt8 :=
  match l.max with
  | none => 0x00 :: writeUnsigned l.min
  | some max => 0x01 :: writeUnsigned l.min ++ writeUnsigned max

def writeTableType (t : TableType) : List UInt8 :=
  writeValType t.element :: writeLimits t.limits

def writeGlobalType (g : GlobalType) : List UInt8 :=
  [writeValType g.value, if g.isMutable then 0x01 else 0x00]

def writeSection (id : UInt8) (entries : List (List UInt8)) : List UInt8 :=
  if entries.isEmpty then [] else id :: writeBytes (writeVector entries)

end ModuleHost.Wasm.Binary
