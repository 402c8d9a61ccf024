import ModuleHost.Ieee.Format

namespace ModuleHost.Ieee.Format

variable (f : Format)

def neg (a : Nat) : Nat :=
  f.withSign (!f.isNegative a) (f.magnitude a)

def abs (a : Nat) : Nat :=
  f.magnitude a

def copySign (a b : Nat) : Nat :=
  f.withSign (f.isNegative b) (f.magnitude a)

def order (a : Nat) : Int :=
  if f.isNegative a then - (f.magnitude a : Int) else f.magnitude a

def eq (a b : Nat) : Bool :=
  !f.isNaN a && !f.isNaN b && f.order a = f.order b

def lt (a b : Nat) : Bool :=
  !f.isNaN a && !f.isNaN b && f.order a < f.order b

def le (a b : Nat) : Bool :=
  !f.isNaN a && !f.isNaN b && f.order a ≤ f.order b

def minimum (a b : Nat) : Nat :=
  if f.isNaN a || f.isNaN b then f.quietNaN
  else if f.order a < f.order b then a
  else if f.order b < f.order a then b
  else if f.isNegative a then a else b

def maximum (a b : Nat) : Nat :=
  if f.isNaN a || f.isNaN b then f.quietNaN
  else if f.order a < f.order b then b
  else if f.order b < f.order a then a
  else if f.isNegative a then b else a

def decodeSigned (a : Nat) : Int × Int :=
  let (m, e) := f.decode (f.magnitude a)
  (if f.isNegative a then - (m : Int) else m, e)

def roundSigned (zeroSign : Bool) (mantissa exponent : Int) : Nat :=
  if mantissa = 0 then f.withSign zeroSign 0
  else f.withSign (mantissa < 0) (f.roundDyadic mantissa.natAbs exponent)

def add (a b : Nat) : Nat :=
  if f.isNaN a || f.isNaN b then f.quietNaN
  else if f.isInfinite a then
    if f.isInfinite b && f.isNegative a != f.isNegative b then f.quietNaN else a
  else if f.isInfinite b then b
  else
    let (m, e) := f.decodeSigned a
    let (n, g) := f.decodeSigned b
    let low := if e ≤ g then e else g
    let sum := m * Nat.pow 2 (e - low).toNat + n * Nat.pow 2 (g - low).toNat
    f.roundSigned (f.isNegative a && f.isNegative b) sum low

def sub (a b : Nat) : Nat :=
  if f.isNaN b then f.quietNaN else f.add a (f.neg b)

def mul (a b : Nat) : Nat :=
  let negative := f.isNegative a != f.isNegative b
  if f.isNaN a || f.isNaN b then f.quietNaN
  else if f.isInfinite a || f.isInfinite b then
    if f.isZero a || f.isZero b then f.quietNaN else f.withSign negative f.infinity
  else
    let (m, e) := f.decode (f.magnitude a)
    let (n, g) := f.decode (f.magnitude b)
    f.withSign negative (f.roundDyadic (m * n) (e + g))

def mulAdd (a b d : Nat) : Nat :=
  let negative := f.isNegative a != f.isNegative b
  if f.isNaN a || f.isNaN b || f.isNaN d then f.quietNaN
  else if f.isInfinite a || f.isInfinite b then f.add (f.mul a b) d
  else if f.isInfinite d then d
  else
    let (m, e) := f.decodeSigned a
    let (n, g) := f.decodeSigned b
    let (k, h) := f.decodeSigned d
    let low := if e + g ≤ h then e + g else h
    let sum := m * n * Nat.pow 2 (e + g - low).toNat + k * Nat.pow 2 (h - low).toNat
    f.roundSigned (negative && f.isNegative d) sum low

def div (a b : Nat) : Nat :=
  let negative := f.isNegative a != f.isNegative b
  if f.isNaN a || f.isNaN b then f.quietNaN
  else if f.isInfinite a then
    if f.isInfinite b then f.quietNaN else f.withSign negative f.infinity
  else if f.isInfinite b then f.withSign negative 0
  else if f.isZero b then
    if f.isZero a then f.quietNaN else f.withSign negative f.infinity
  else
    let (m, e) := f.decode (f.magnitude a)
    let (n, g) := f.decode (f.magnitude b)
    let (num, den) := scale m n (e - g)
    f.withSign negative (f.round num den)

def sqrt (a : Nat) : Nat :=
  if f.isNaN a then f.quietNaN
  else if f.isZero a then a
  else if f.isNegative a then f.quietNaN
  else if f.isInfinite a then a
  else
    let (m, e) := f.decode (f.magnitude a)
    let shift := 2 * f.precision + 4 + ((e - (2 * f.precision + 4 : Nat)) % 2).toNat
    let scaled := m * Nat.pow 2 shift
    let root := Nat.sqrt scaled
    let twice := if root * root = scaled then 2 * root else 2 * root + 1
    f.roundDyadic twice ((e - shift) / 2 - 1)

def ofInt (n : Int) : Nat :=
  f.roundSigned false n 0

def ofFormat (g : Format) (a : Nat) : Nat :=
  if g.isNaN a then f.withSign (g.isNegative a) f.quietNaN
  else if g.isInfinite a then f.withSign (g.isNegative a) f.infinity
  else
    let (m, e) := g.decode (g.magnitude a)
    f.withSign (g.isNegative a) (f.roundDyadic m e)

/-- How a magnitude `num / den` becomes an integer, told the sign of the number. -/
abbrev IntegerRule := Bool → Nat → Nat → Nat

def towardZero : IntegerRule := fun _ num den => num / den

def upward : IntegerRule := fun negative num den =>
  if negative then num / den else (num + den - 1) / den

def downward : IntegerRule := fun negative num den =>
  if negative then (num + den - 1) / den else num / den

def toNearest : IntegerRule := fun _ num den => roundQuotient num den

def toIntegral (rule : IntegerRule) (a : Nat) : Nat :=
  if f.isNaN a then f.quietNaN
  else if f.isInfinite a then a
  else
    let (m, e) := f.decode (f.magnitude a)
    let (num, den) := scale m 1 e
    f.withSign (f.isNegative a) (f.round (rule (f.isNegative a) num den) 1)

def truncate (a : Nat) : Int :=
  let (m, e) := f.decode (f.magnitude a)
  let (num, den) := scale m 1 e
  if f.isNegative a then - ((num / den : Nat) : Int) else (num / den : Nat)

end ModuleHost.Ieee.Format
