namespace ModuleHost.Ieee

/-- A binary interchange format, given by its significant bits (with the leading one) and the
width of its exponent field. -/
structure Format where
  precision : Nat
  exponentBits : Nat
  deriving DecidableEq, Repr

def binary32 : Format := ⟨24, 8⟩
def binary64 : Format := ⟨53, 11⟩

namespace Format

variable (f : Format)

def signBit : Nat :=
  Nat.pow 2 (f.precision + f.exponentBits - 1)

def infinity : Nat :=
  (Nat.pow 2 f.exponentBits - 1) * Nat.pow 2 (f.precision - 1)

def quietNaN : Nat :=
  f.infinity + Nat.pow 2 (f.precision - 2)

def minExponent : Int :=
  3 - Nat.pow 2 (f.exponentBits - 1) - f.precision

def isNegative (bits : Nat) : Bool :=
  f.signBit ≤ bits

def magnitude (bits : Nat) : Nat :=
  bits % f.signBit

def isNaN (bits : Nat) : Bool :=
  f.infinity < f.magnitude bits

def isInfinite (bits : Nat) : Bool :=
  f.magnitude bits = f.infinity

def isZero (bits : Nat) : Bool :=
  f.magnitude bits = 0

def withSign (negative : Bool) (magnitude : Nat) : Nat :=
  if negative then f.signBit + magnitude else magnitude

def decode (magnitude : Nat) : Nat × Int :=
  let field := magnitude / Nat.pow 2 (f.precision - 1)
  if field = 0 then (magnitude, f.minExponent)
  else
    let leading := Nat.pow 2 (f.precision - 1)
    (magnitude % leading + leading, f.minExponent + field - 1)

end Format

def roundQuotient (num den : Nat) : Nat :=
  let q := num / den
  let r := num % den
  if 2 * r < den ∨ (2 * r = den ∧ q % 2 = 0) then q else q + 1

def scale (num den : Nat) (exponent : Int) : Nat × Nat :=
  match exponent with
  | .ofNat e => (num * Nat.pow 2 e, den)
  | .negSucc e => (num, den * Nat.pow 2 (e + 1))

def floorLog2 (num den : Nat) : Int :=
  let guess : Int := num.log2 - den.log2
  let (n, d) := scale num den (-guess)
  if d ≤ n then guess else guess - 1

/-- The magnitude nearest to a non-negative quotient; of two equally near the even one. A quotient
that rounds past the greatest finite magnitude gives infinity. -/
def Format.round (f : Format) (num den : Nat) : Nat :=
  if num = 0 then 0
  else
    let e := max f.minExponent (floorLog2 num den - (f.precision - 1 : Nat))
    let (n, d) := scale num den (-e)
    min ((e - f.minExponent).toNat * Nat.pow 2 (f.precision - 1) + roundQuotient n d) f.infinity

def Format.roundDyadic (f : Format) (mantissa : Nat) (exponent : Int) : Nat :=
  let (n, d) := scale mantissa 1 exponent
  f.round n d

end ModuleHost.Ieee
