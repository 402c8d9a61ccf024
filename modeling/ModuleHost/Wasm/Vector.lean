import ModuleHost.Wasm.Numeric

namespace ModuleHost.Wasm

/-- The number whose digits, of so many bits each, a function gives, lowest first. -/
def build (bits : Nat) : Nat → (Nat → Nat) → Nat
  | 0, _ => 0
  | count + 1, f => build bits count f + Nat.pow 2 (bits * count) * (f count % Nat.pow 2 bits)

namespace LaneWidth

variable (w : LaneWidth)

def vector (f : Nat → Nat) : Slot :=
  build w.bits w.count f

def lane (v : Slot) (i : Nat) : Nat :=
  v / Nat.pow 2 (w.bits * i) % Nat.pow 2 w.bits

def value (signed : Bool) (a : Nat) : Int :=
  if signed ∧ Nat.pow 2 (w.bits - 1) ≤ a then (a : Int) - Nat.pow 2 w.bits else a

def wrap (n : Int) : Nat :=
  (n % (Nat.pow 2 w.bits : Int)).toNat

def clamp (signed : Bool) (n : Int) : Nat :=
  let low : Int := if signed then -(Nat.pow 2 (w.bits - 1) : Int) else 0
  let high : Int := if signed then Nat.pow 2 (w.bits - 1) - 1 else Nat.pow 2 w.bits - 1
  w.wrap (max low (min high n))

def mask (b : Bool) : Nat :=
  if b then Nat.pow 2 w.bits - 1 else 0

def complement (a : Nat) : Nat :=
  Nat.pow 2 w.bits - 1 - a

def replace (v : Slot) (lane a : Nat) : Slot :=
  w.vector fun i => if i = lane then a else w.lane v i

end LaneWidth

def LaneUnary.apply (w : LaneWidth) (op : LaneUnary) (a : Nat) : Nat :=
  match op with
  | abs => (w.value true a).natAbs
  | neg => w.wrap (-(a : Int))
  | popcnt => countOnes w.bits a

def LaneBinary.apply (w : LaneWidth) (op : LaneBinary) (a b : Nat) : Nat :=
  match op with
  | add => a + b
  | sub => w.wrap ((a : Int) - b)
  | mul => a * b
  | min signed => if w.value signed a ≤ w.value signed b then a else b
  | max signed => if w.value signed a ≤ w.value signed b then b else a
  | addSat signed => w.clamp signed (w.value signed a + w.value signed b)
  | subSat signed => w.clamp signed (w.value signed a - w.value signed b)
  | average => (a + b + 1) / 2
  | mulQ15 => w.clamp true ((w.value true a * w.value true b + 0x4000) / 0x8000)

def LaneShift.apply (w : LaneWidth) (op : LaneShift) (a count : Nat) : Nat :=
  let places := Nat.pow 2 (count % w.bits)
  match op with
  | shl => a * places
  | shr signed => w.wrap (w.value signed a / (places : Int))

def IntCompare.applyLane (w : LaneWidth) (op : IntCompare) (a b : Nat) : Bool :=
  op.apply .w64 (signExtend .w64 w.bits a) (signExtend .w64 w.bits b)

def LaneWidth.half (w : LaneWidth) (high signed : Bool) (v : Slot) (i : Nat) : Int :=
  w.value signed (w.lane v (if high then i + w.double.count else i))

def VectorUnary.apply (op : VectorUnary) (a : Slot) : Slot :=
  match op with
  | not => LaneWidth.w64.vector fun i => LaneWidth.w64.complement (LaneWidth.w64.lane a i)
  | int w op => w.vector fun i => op.apply w (w.lane a i)
  | float w op => w.lane.vector fun i => op.apply w.format (w.lane.lane a i)
  | extend w high signed => w.double.vector fun i => w.double.wrap (w.half high signed a i)
  | addPairs w signed =>
    w.double.vector fun i =>
      w.double.wrap (w.value signed (w.lane a (2 * i)) + w.value signed (w.lane a (2 * i + 1)))
  | truncateSat source signed =>
    LaneWidth.w32.vector fun i =>
      if i < source.lane.count then
        Wasm.truncateSat source.format .w32 signed (source.lane.lane a i)
      else 0
  | convert target signed =>
    target.lane.vector fun i =>
      target.format.ofInt (LaneWidth.w32.value signed (LaneWidth.w32.lane a i))
  | demote =>
    LaneWidth.w32.vector fun i =>
      if i < 2 then Ieee.binary32.ofFormat Ieee.binary64 (LaneWidth.w64.lane a i) else 0
  | promote =>
    LaneWidth.w64.vector fun i => Ieee.binary64.ofFormat Ieee.binary32 (LaneWidth.w32.lane a i)

def VectorBinary.apply (op : VectorBinary) (a b : Slot) : Slot :=
  let bitwise (f : Nat → Nat → Nat) : Slot :=
    LaneWidth.w64.vector fun i => f (LaneWidth.w64.lane a i) (LaneWidth.w64.lane b i)
  let floats (w : FloatWidth) (f : Nat → Nat → Nat) : Slot :=
    w.lane.vector fun i => f (w.lane.lane a i) (w.lane.lane b i)
  match op with
  | and => bitwise (· &&& ·)
  | andNot => bitwise fun x y => x &&& LaneWidth.w64.complement y
  | or => bitwise (· ||| ·)
  | xor => bitwise (· ^^^ ·)
  | int w op => w.vector fun i => op.apply w (w.lane a i) (w.lane b i)
  | intCompare w op => w.vector fun i => w.mask (op.applyLane w (w.lane a i) (w.lane b i))
  | float w op => floats w (op.apply w.format)
  | floatCompare w op => floats w fun x y => w.lane.mask (op.apply w.format x y)
  | pseudoMin w => floats w fun x y => if w.format.lt y x then y else x
  | pseudoMax w => floats w fun x y => if w.format.lt x y then y else x
  | narrow target signed =>
    let source := target.double
    target.vector fun i =>
      let x := if i < source.count then source.lane a i else source.lane b (i - source.count)
      target.clamp signed (source.value true x)
  | mulHalves w high signed =>
    w.double.vector fun i => w.double.wrap (w.half high signed a i * w.half high signed b i)
  | dot w =>
    let product (i : Nat) : Int := w.value true (w.lane a i) * w.value true (w.lane b i)
    w.double.vector fun i => w.double.wrap (product (2 * i) + product (2 * i + 1))
  | swizzle =>
    LaneWidth.w8.vector fun i =>
      let j := LaneWidth.w8.lane b i
      if j < 16 then LaneWidth.w8.lane a j else 0
  | shuffle lanes =>
    LaneWidth.w8.vector fun i =>
      let j := lanes.getD i 0
      if j < 16 then LaneWidth.w8.lane a j else LaneWidth.w8.lane b (j - 16)

def VectorTernary.apply (op : VectorTernary) (a b d : Slot) : Slot :=
  match op with
  | bitSelect =>
    let lane := LaneWidth.w64.lane
    LaneWidth.w64.vector fun i =>
      (lane a i &&& lane d i) ||| (lane b i &&& LaneWidth.w64.complement (lane d i))
  | mulAdd w negated =>
    let f := w.format
    w.lane.vector fun i =>
      let x := w.lane.lane a i
      f.mulAdd (if negated then f.neg x else x) (w.lane.lane b i) (w.lane.lane d i)
  | dotAdd =>
    let sums := (VectorUnary.addPairs .w16 true).apply ((VectorBinary.dot .w8).apply a b)
    (VectorBinary.int .w32 .add).apply sums d

def VectorTest.apply (op : VectorTest) (a : Slot) : Slot :=
  match op with
  | anyTrue => ofBool (a ≠ 0)
  | allTrue w => ofBool ((List.range w.count).all fun i => w.lane a i ≠ 0)
  | bitmask w => build 1 w.count fun i => w.lane a i / Nat.pow 2 (w.bits - 1)

def LaneShape.extract (shape : LaneShape) (signed : Bool) (a : Nat) : Slot :=
  match shape with
  | int w => if signed then signExtend .w32 w.bits a else a
  | float _ => a

/-- The result for operands of which the topmost comes first. -/
def VectorOp.apply (op : VectorOp) (args : List Slot) : Slot :=
  let arg (i : Nat) : Slot := args.getD i 0
  match op with
  | unary op => op.apply (arg 0)
  | binary op => op.apply (arg 1) (arg 0)
  | ternary op => op.apply (arg 2) (arg 1) (arg 0)
  | test op => op.apply (arg 0)
  | shift w op => w.vector fun i => op.apply w (w.lane (arg 1) i) (arg 0)
  | splat shape => shape.width.vector fun _ => arg 0
  | extract shape signed lane => shape.extract signed (shape.width.lane (arg 0) lane)
  | replace shape lane => shape.width.replace (arg 1) lane (arg 0)

def VectorLoad.apply (how : VectorLoad) (n : Nat) : Slot :=
  match how with
  | extend w signed => (VectorUnary.extend w false signed).apply n
  | splat w => w.vector fun _ => n
  | zero w => w.vector fun i => if i = 0 then n else 0

end ModuleHost.Wasm
