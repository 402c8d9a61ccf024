import ModuleHost.Text.Utf8
import ModuleHost.Wasm.Fault
import ModuleHost.Wasm.Types

namespace ModuleHost.Wasm.Binary

abbrev Reader := StateT (List UInt8) (Except ModuleFault)

def refuse (fault : ModuleFault) : Reader α :=
  fun _ => .error fault

def byte : Reader UInt8
  | [] => .error .unexpectedEnd
  | b :: bs => .ok (b, bs)

def peek : Reader UInt8
  | [] => .error .unexpectedEnd
  | b :: bs => .ok (b, b :: bs)

def take (count : Nat) : Reader (List UInt8) := fun bs =>
  let front := bs.take count
  if front.length = count then .ok (front, bs.drop count) else .error .unexpectedEnd

/-- An unsigned integer of `bits` bits in at most `groups` groups. -/
def unsignedGroups : (groups bits : Nat) → Reader Nat
  | 0, _ => refuse .integerTooLong
  | groups + 1, bits => do
    let b ← byte
    if b < 0x80 then
      if bits < 7 ∧ Nat.pow 2 bits ≤ b.toNat then refuse .integerTooLarge else return b.toNat
    else
      let high ← unsignedGroups groups (bits - 7)
      return (b.toNat - 0x80) + 0x80 * high

def signedGroups : (groups bits : Nat) → Reader Int
  | 0, _ => refuse .integerTooLong
  | groups + 1, bits => do
    let b ← byte
    if b < 0x80 then
      let n : Int := if b < 0x40 then b.toNat else b.toNat - 0x80
      let half : Int := Nat.pow 2 (bits - 1)
      if bits < 7 ∧ (n < -half ∨ half ≤ n) then refuse .integerTooLarge else return n
    else
      let high ← signedGroups groups (bits - 7)
      return (b.toNat - 0x80 : Nat) + 0x80 * high

def groupsFor (bits : Nat) : Nat :=
  (bits + 6) / 7

def unsigned (bits : Nat) : Reader Nat :=
  unsignedGroups (groupsFor bits) bits

def signed (bits : Nat) : Reader Int :=
  signedGroups (groupsFor bits) bits

def u32 : Reader Nat :=
  unsigned 32

def replicate (item : Reader α) : Nat → Reader (List α)
  | 0 => return []
  | count + 1 => do
    let x ← item
    let xs ← replicate item count
    return x :: xs

def vector (item : Reader α) : Reader (List α) := do
  let count ← u32
  let bs ← get
  if bs.length < count then refuse .unexpectedEnd else replicate item count

def maxNameBytes : Nat := 100000

def name : Reader String := do
  let size ← u32
  if maxNameBytes < size then refuse (.tooMany "bytes in a name")
  else
    let bytes ← take size
    match Utf8.decode bytes with
    | .ok s => return s
    | .error _ => refuse .malformedName

def valTypeOf : UInt8 → Option ValType
  | 0x7f => some .i32
  | 0x7e => some .i64
  | 0x7d => some .f32
  | 0x7c => some .f64
  | 0x7b => some .v128
  | 0x70 => some .funcref
  | 0x6f => some .externref
  | _ => none

def valType : Reader ValType := do
  match valTypeOf (← byte) with
  | some t => return t
  | none => refuse (.malformed "value type")

def refType : Reader ValType := do
  let t ← valType
  if t.isReference then return t else refuse (.malformed "reference type")

def funcType : Reader FuncType := do
  match ← byte with
  | 0x60 =>
    let params ← vector valType
    let results ← vector valType
    return ⟨params, results⟩
  | _ => refuse (.malformed "function type")

def limits : Reader Limits := do
  match ← byte with
  | 0x00 => return ⟨← u32, none⟩
  | 0x01 =>
    let min ← u32
    let max ← u32
    return ⟨min, some max⟩
  | _ => refuse (.malformed "limits flags")

def tableType : Reader TableType := do
  let element ← refType
  return ⟨element, ← limits⟩

def globalType : Reader GlobalType := do
  let value ← valType
  match ← byte with
  | 0x00 => return ⟨value, false⟩
  | 0x01 => return ⟨value, true⟩
  | _ => refuse (.malformed "mutability")

end ModuleHost.Wasm.Binary
