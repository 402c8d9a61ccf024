import ModuleHost.Ieee.Format
import ModuleHost.Text.Digits

namespace ModuleHost.Ieee

structure Decimal where
  digits : Nat
  exponent : Int
  deriving DecidableEq, Repr

namespace Decimal

def ratio (d : Decimal) : Nat × Nat :=
  match d.exponent with
  | .ofNat e => (d.digits * Nat.pow 10 e, 1)
  | .negSucc e => (d.digits, Nat.pow 10 (e + 1))

def normalize (d : Decimal) : Nat → Decimal
  | 0 => d
  | steps + 1 =>
    if d.digits ≠ 0 ∧ d.digits % 10 = 0 then normalize ⟨d.digits / 10, d.exponent + 1⟩ steps
    else d

def write (d : Decimal) : List Char :=
  let ds := Digits.write 10 d.digits
  match d.exponent with
  | .ofNat e => if d.digits = 0 then ds else ds ++ List.replicate e '0'
  | .negSucc e =>
    let places := e + 1
    let padded := ds.leftpad (places + 1) '0'
    padded.take (padded.length - places) ++ '.' :: padded.drop (padded.length - places)

end Decimal

def exponentBound : Int := 400

def Format.ofDecimal (f : Format) (d : Decimal) : Nat :=
  if d.digits = 0 then 0
  else
    let leading := d.exponent + ((Digits.write 10 d.digits).length : Int) - 1
    if exponentBound < leading then f.infinity
    else if leading < -exponentBound then 0
    else
      let (num, den) := d.ratio
      f.round num den

def descendToPower (num den : Nat) : Nat → Int → Int
  | 0, exponent => exponent
  | steps + 1, exponent =>
    let (n, d) := Decimal.ratio ⟨1, exponent⟩
    if n * den ≤ num * d then exponent else descendToPower num den steps (exponent - 1)

def leadingExponent (num den : Nat) : Int :=
  descendToPower num den 8 (floorLog2 num den * 3 / 10 + 2)

/-- Those of a quotient's neighbours on the grid of multiples of `10 ^ exponent` that read back as
the given magnitude: the nearer one, of two equally near the upper one. -/
def Format.gridPoint (f : Format) (magnitude num den : Nat) (exponent : Int) : Option Decimal :=
  let (unitNum, unitDen) := Decimal.ratio ⟨1, exponent⟩
  let n := num * unitDen
  let d := den * unitNum
  let lower : Decimal := ⟨n / d, exponent⟩
  let upper : Decimal := ⟨n / d + 1, exponent⟩
  if f.ofDecimal lower = magnitude then
    if f.ofDecimal upper = magnitude ∧ d ≤ 2 * (n % d) then some upper else some lower
  else if f.ofDecimal upper = magnitude then some upper
  else none

def Format.firstGridPoint (f : Format) (magnitude num den : Nat) : Nat → Int → Option Decimal
  | 0, _ => none
  | steps + 1, exponent =>
    match f.gridPoint magnitude num den exponent with
    | some d => some d
    | none => f.firstGridPoint magnitude num den steps (exponent - 1)

def exactDecimal (mantissa : Nat) (exponent : Int) : Decimal :=
  match exponent with
  | .ofNat e => ⟨mantissa * Nat.pow 2 e, 0⟩
  | .negSucc e => ⟨mantissa * Nat.pow 5 (e + 1), .negSucc e⟩

def maxDigits : Nat := 17

def Format.shortest (f : Format) (magnitude : Nat) : Decimal :=
  let (m, e) := f.decode magnitude
  if m = 0 then ⟨0, 0⟩
  else
    let (num, den) := scale m 1 e
    let leading := leadingExponent num den
    let found := (f.firstGridPoint magnitude num den maxDigits leading).getD (exactDecimal m e)
    found.normalize 800

def Format.write (f : Format) (bits : Nat) : List Char :=
  if f.isNaN bits then "NaN".toList
  else
    let body :=
      if f.isInfinite bits then "inf".toList else (f.shortest (f.magnitude bits)).write
    if f.isNegative bits then '-' :: body else body

inductive ReadFault where
  | empty
  | malformed
  deriving DecidableEq, Repr

def ReadFault.message : ReadFault → String
  | .empty => "cannot parse float from empty string"
  | .malformed => "invalid float literal"

def digitsValue (ds : List Char) : Nat :=
  ds.foldl (fun acc c => 10 * acc + (c.toNat - '0'.toNat)) 0

def readExponent : List Char → Option Int
  | [] => some 0
  | mark :: cs =>
    if mark = 'e' ∨ mark = 'E' then
      let (negative, ds) :=
        match cs with
        | '-' :: rest => (true, rest)
        | '+' :: rest => (false, rest)
        | rest => (false, rest)
      if ds.isEmpty || !ds.all Digits.isDecimal then none
      else some (if negative then - (digitsValue ds : Int) else digitsValue ds)
    else none

def readDecimal (cs : List Char) : Option Decimal :=
  let whole := cs.takeWhile Digits.isDecimal
  let afterWhole := cs.dropWhile Digits.isDecimal
  let (fraction, rest) :=
    match afterWhole with
    | '.' :: more => (more.takeWhile Digits.isDecimal, more.dropWhile Digits.isDecimal)
    | more => ([], more)
  if whole.isEmpty && fraction.isEmpty then none
  else
    (readExponent rest).map fun e =>
      ⟨digitsValue (whole ++ fraction), e - (fraction.length : Int)⟩

def Format.readMagnitude (f : Format) (cs : List Char) : Option Nat :=
  let name := cs.map Char.toLower
  if name = "inf".toList ∨ name = "infinity".toList then some f.infinity
  else if name = "nan".toList then some f.quietNaN
  else (readDecimal cs).map f.ofDecimal

def Format.read (f : Format) (cs : List Char) : Except ReadFault Nat :=
  let (negative, body) :=
    match cs with
    | '-' :: rest => (true, rest)
    | '+' :: rest => (false, rest)
    | rest => (false, rest)
  if cs.isEmpty then .error .empty
  else
    match f.readMagnitude body with
    | some m => .ok (f.withSign negative m)
    | none => .error .malformed

end ModuleHost.Ieee
