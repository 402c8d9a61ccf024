import ModuleHost.Failure
import ModuleHost.Ieee.Arithmetic

namespace ModuleHost

namespace Value

inductive Kind where
  | i32
  | i64
  | f32
  | f64
  | v128
  deriving DecidableEq, Repr

namespace Kind

def name : Value.Kind → String
  | i32 => "i32"
  | i64 => "i64"
  | f32 => "f32"
  | f64 => "f64"
  | v128 => "v128"

def size : Value.Kind → Nat
  | i32 | f32 => 4
  | i64 | f64 => 8
  | v128 => 16

def joinNames (kinds : List Kind) : String :=
  String.intercalate ", " (kinds.map name)

end Kind

end Value

inductive Value where
  | i32 (v : Int32)
  | i64 (v : Int64)
  | f32 (bits : UInt32)
  | f64 (bits : UInt64)
  | v128 (v : BitVec 128)
  deriving DecidableEq

namespace Value

def kind : Value → Kind
  | i32 _ => .i32
  | i64 _ => .i64
  | f32 _ => .f32
  | f64 _ => .f64
  | v128 _ => .v128

def bits : Value → Nat
  | i32 v => v.toUInt32.toNat
  | i64 v => v.toUInt64.toNat
  | f32 b => b.toNat
  | f64 b => b.toNat
  | v128 v => v.toNat

def ofBits : Kind → Nat → Value
  | .i32, n => i32 (UInt32.ofNat n).toInt32
  | .i64, n => i64 (UInt64.ofNat n).toInt64
  | .f32, n => f32 (UInt32.ofNat n)
  | .f64, n => f64 (UInt64.ofNat n)
  | .v128, n => v128 (BitVec.ofNat 128 n)

/-- Equality of numbers: the zeros of a float kind are equal and a NaN equals nothing. -/
def equals : Value → Value → Bool
  | i32 a, i32 b => a == b
  | i64 a, i64 b => a == b
  | f32 a, f32 b => Ieee.binary32.eq a.toNat b.toNat
  | f64 a, f64 b => Ieee.binary64.eq a.toNat b.toNat
  | v128 a, v128 b => a == b
  | _, _ => false

end Value

def littleEndian : Nat → Nat → List UInt8
  | 0, _ => []
  | count + 1, n => UInt8.ofNat n :: littleEndian count (n / 256)

def ofLittleEndian : List UInt8 → Nat
  | [] => 0
  | b :: bs => b.toNat + 256 * ofLittleEndian bs

namespace Value

def toBytes (v : Value) : List UInt8 :=
  littleEndian v.kind.size v.bits

def ofBytes (kind : Kind) (bytes : List UInt8) : Except Failure Value :=
  if bytes.length = kind.size then .ok (ofBits kind (ofLittleEndian bytes))
  else
    .error (.invalidArgument
      (kind.name ++ " needs " ++ toString kind.size ++ " bytes, got " ++ toString bytes.length))

end Value

end ModuleHost
