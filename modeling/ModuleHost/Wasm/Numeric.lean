import ModuleHost.Ieee.Arithmetic
import ModuleHost.Wasm.Instr
import ModuleHost.Wasm.Trap

namespace ModuleHost.Wasm

abbrev Slot := Nat

namespace IntWidth

def bits : IntWidth → Nat
  | w32 => 32
  | w64 => 64

def modulus : IntWidth → Nat
  | w32 => 0x1_0000_0000
  | w64 => 0x1_0000_0000_0000_0000

def signBit : IntWidth → Nat
  | w32 => 0x8000_0000
  | w64 => 0x8000_0000_0000_0000

variable (w : IntWidth)

def toSigned (a : Nat) : Int :=
  if a < w.signBit then a else (a : Int) - w.modulus

def ofSigned (n : Int) : Nat :=
  (n % w.modulus).toNat

end IntWidth

def signExtend (w : IntWidth) (bits a : Nat) : Nat :=
  let low := a % Nat.pow 2 bits
  if low < Nat.pow 2 (bits - 1) then low else low + w.modulus - Nat.pow 2 bits

def countOnes : Nat → Nat → Nat
  | 0, _ => 0
  | bits + 1, a => a % 2 + countOnes bits (a / 2)

def trailingZeros : Nat → Nat → Nat
  | 0, _ => 0
  | bits + 1, a => if a % 2 = 1 then 0 else trailingZeros bits (a / 2) + 1

def IntUnary.apply (w : IntWidth) (op : IntUnary) (a : Nat) : Nat :=
  match op with
  | clz => if a = 0 then w.bits else w.bits - 1 - a.log2
  | ctz => trailingZeros w.bits a
  | popcnt => countOnes w.bits a
  | extend8 => signExtend w 8 a
  | extend16 => signExtend w 16 a
  | extend32 => signExtend w 32 a

def rotateLeft (w : IntWidth) (a count : Nat) : Nat :=
  (a * Nat.pow 2 count) % w.modulus + a / Nat.pow 2 (w.bits - count)

def IntBinary.apply (w : IntWidth) (op : IntBinary) (a b : Nat) : Except Trap Nat :=
  match op with
  | add => .ok ((a + b) % w.modulus)
  | sub => .ok ((a + (w.modulus - b)) % w.modulus)
  | mul => .ok ((a * b) % w.modulus)
  | divS =>
    if b = 0 then .error .integerDivisionByZero
    else if a = w.signBit ∧ b = w.modulus - 1 then .error .integerOverflow
    else .ok (w.ofSigned ((w.toSigned a).tdiv (w.toSigned b)))
  | divU => if b = 0 then .error .integerDivisionByZero else .ok (a / b)
  | remS =>
    if b = 0 then .error .integerDivisionByZero
    else .ok (w.ofSigned ((w.toSigned a).tmod (w.toSigned b)))
  | remU => if b = 0 then .error .integerDivisionByZero else .ok (a % b)
  | .and => .ok (a &&& b)
  | .or => .ok (a ||| b)
  | .xor => .ok (a ^^^ b)
  | shl => .ok ((a * Nat.pow 2 (b % w.bits)) % w.modulus)
  | shrS => .ok (w.ofSigned ((w.toSigned a).fdiv (Nat.pow 2 (b % w.bits))))
  | shrU => .ok (a / Nat.pow 2 (b % w.bits))
  | rotl => .ok (rotateLeft w a (b % w.bits))
  | rotr => .ok (rotateLeft w a ((w.bits - b % w.bits) % w.bits))

def ofBool (b : Bool) : Slot :=
  if b then 1 else 0

def IntCompare.apply (w : IntWidth) (op : IntCompare) (a b : Nat) : Bool :=
  match op with
  | eq => a = b
  | ne => a ≠ b
  | ltS => w.toSigned a < w.toSigned b
  | ltU => a < b
  | gtS => w.toSigned b < w.toSigned a
  | gtU => b < a
  | leS => w.toSigned a ≤ w.toSigned b
  | leU => a ≤ b
  | geS => w.toSigned b ≤ w.toSigned a
  | geU => b ≤ a

def FloatWidth.format : FloatWidth → Ieee.Format
  | w32 => Ieee.binary32
  | w64 => Ieee.binary64

def FloatUnary.apply (f : Ieee.Format) (op : FloatUnary) (a : Nat) : Nat :=
  match op with
  | abs => f.abs a
  | neg => f.neg a
  | ceil => f.toIntegral Ieee.Format.upward a
  | floor => f.toIntegral Ieee.Format.downward a
  | trunc => f.toIntegral Ieee.Format.towardZero a
  | nearest => f.toIntegral Ieee.Format.toNearest a
  | sqrt => f.sqrt a

def FloatBinary.apply (f : Ieee.Format) (op : FloatBinary) (a b : Nat) : Nat :=
  match op with
  | add => f.add a b
  | sub => f.sub a b
  | mul => f.mul a b
  | div => f.div a b
  | min => f.minimum a b
  | max => f.maximum a b
  | copysign => f.copySign a b

def FloatCompare.apply (f : Ieee.Format) (op : FloatCompare) (a b : Nat) : Bool :=
  match op with
  | eq => f.eq a b
  | ne => !f.eq a b
  | lt => f.lt a b
  | gt => f.lt b a
  | le => f.le a b
  | ge => f.le b a

def IntWidth.range (w : IntWidth) (signed : Bool) : Int × Int :=
  if signed then (-(w.signBit : Int), w.signBit - 1) else (0, w.modulus - 1)

def truncate (f : Ieee.Format) (w : IntWidth) (signed : Bool) (a : Nat) : Except Trap Nat :=
  if f.isNaN a then .error .badConversionToInteger
  else if f.isInfinite a then .error .integerOverflow
  else
    let n := f.truncate a
    let (low, high) := w.range signed
    if low ≤ n ∧ n ≤ high then .ok (w.ofSigned n) else .error .integerOverflow

def truncateSat (f : Ieee.Format) (w : IntWidth) (signed : Bool) (a : Nat) : Nat :=
  let (low, high) := w.range signed
  if f.isNaN a then 0
  else if f.isInfinite a then w.ofSigned (if f.isNegative a then low else high)
  else
    let n := f.truncate a
    w.ofSigned (if n < low then low else if high < n then high else n)

def Unary.apply (op : Unary) (a : Slot) : Except Trap Slot :=
  match op with
  | isZero _ => .ok (ofBool (a = 0))
  | int w op => .ok (op.apply w a)
  | float w op => .ok (op.apply w.format a)
  | wrap => .ok (a % IntWidth.w32.modulus)
  | extend signed => .ok (if signed then signExtend .w64 32 a else a)
  | truncate source target signed => Wasm.truncate source.format target signed a
  | truncateSat source target signed => .ok (Wasm.truncateSat source.format target signed a)
  | convert source signed target =>
    .ok (target.format.ofInt (if signed then source.toSigned a else a))
  | demote => .ok (Ieee.binary32.ofFormat Ieee.binary64 a)
  | promote => .ok (Ieee.binary64.ofFormat Ieee.binary32 a)
  | reinterpretFloat _ => .ok a
  | reinterpretInt _ => .ok a

def Binary.apply (op : Binary) (a b : Slot) : Except Trap Slot :=
  match op with
  | int w op => op.apply w a b
  | intCompare w op => .ok (ofBool (op.apply w a b))
  | float w op => .ok (op.apply w.format a b)
  | floatCompare w op => .ok (ofBool (op.apply w.format a b))

end ModuleHost.Wasm
