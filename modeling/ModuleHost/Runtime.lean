import ModuleHost.Settings
import ModuleHost.Wasi
import ModuleHost.Wasm.Binary.Module
import ModuleHost.Wasm.Text.Module

namespace ModuleHost

/-- What a host leaves to the engine that it is built on: the text format, the world outside of the
guests, how deep calls nest on a stack of some bytes, and address space for a pool. -/
class Runtime where
  assemble : String → Except Wasm.ModuleFault (List UInt8)
  outside : Wasi.Outside
  nesting : Nat → Nat
  shortage : Settings.Engine → Option String
  /-- A stack of a kibibyte has room for a call. -/
  nesting_pos : ∀ bytes, 1024 ≤ bytes → 0 < nesting bytes
  /-- A text that starts like a binary module is one. -/
  assemble_headed : ∀ text, Wasm.Binary.magic.isPrefixOf (Utf8.encode text) →
    assemble text = .ok (Utf8.encode text)

namespace Runtime

def frameBytes : Nat := 32

def maxNesting : Nat := 65536

def addressSpace : Nat := 0x8000_0000_0000

def slotSpace : Nat := 0x1_0200_0000

def refuseSpace (bytes : Nat) : Option String :=
  if UInt64.size ≤ bytes then some "total size of memory reservation exceeds addressable memory"
  else if addressSpace < bytes then
    some ("failed to create memory pool mapping: mmap failed to reserve " ++ Digits.hex bytes ++
      " bytes: Cannot allocate memory (os error 12)")
  else none

def assembleText (text : String) : Except Wasm.ModuleFault (List UInt8) :=
  let bytes := Utf8.encode text
  if Wasm.Binary.magic.isPrefixOf bytes then .ok bytes else Wasm.Text.assemble text

instance plain : Runtime where
  assemble := assembleText
  outside := .still
  nesting bytes := min (bytes / frameBytes) maxNesting
  shortage s := refuseSpace (s.poolSize.toNat * slotSpace)
  nesting_pos bytes room := by
    have one : 1 ≤ bytes / frameBytes := Nat.div_pos (Nat.le_trans (by decide) room) (by decide)
    exact Nat.le_min.mpr ⟨one, by decide⟩
  assemble_headed _ headed := if_pos headed

end Runtime

end ModuleHost
