import ModuleHost.Ieee.Decimal

namespace ModuleHost.Wasm.Text

def takeDigits (base : Nat) (inside : Bool) : List Char → List Nat × List Char
  | [] => ([], [])
  | '_' :: cs =>
    if inside ∧ (cs.head?.bind (Digits.valueIn base)).isSome then takeDigits base false cs
    else ([], '_' :: cs)
  | c :: cs =>
    match Digits.valueIn base c with
    | some d =>
      let (ds, rest) := takeDigits base true cs
      (d :: ds, rest)
    | none => ([], c :: cs)

def valueOf (base : Nat) (ds : List Nat) : Nat :=
  ds.foldl (fun acc d => base * acc + d) 0

def takeBase : List Char → Nat × List Char
  | '0' :: 'x' :: cs => (16, cs)
  | cs => (10, cs)

def takeSign : List Char → Bool × List Char
  | '-' :: cs => (true, cs)
  | '+' :: cs => (false, cs)
  | cs => (false, cs)

def readNatural (cs : List Char) : Option Nat :=
  let (base, cs) := takeBase cs
  match takeDigits base false cs with
  | (d :: ds, []) => some (valueOf base (d :: ds))
  | _ => none

def readInteger (bits : Nat) (cs : List Char) : Option Nat :=
  let (negative, body) := takeSign cs
  (readNatural body).bind fun n =>
    if negative then
      if n ≤ Nat.pow 2 (bits - 1) then some ((Nat.pow 2 bits - n) % Nat.pow 2 bits) else none
    else if n < Nat.pow 2 bits then some n
    else none

def takeExponent (base : Nat) (cs : List Char) : Option Int :=
  match cs with
  | [] => some 0
  | mark :: cs =>
    if mark.toLower = (if base = 16 then 'p' else 'e') then
      let (negative, body) := takeSign cs
      match takeDigits 10 false body with
      | (d :: ds, []) =>
        let n : Int := valueOf 10 (d :: ds)
        some (if negative then -n else n)
      | _ => none
    else none

def binaryBound : Int := 1200

def ofBinary (f : Ieee.Format) (mantissa : Nat) (exponent : Int) : Nat :=
  if mantissa = 0 then 0
  else
    let leading := exponent + mantissa.log2
    if binaryBound < leading then f.infinity
    else if leading < -binaryBound then 0
    else f.roundDyadic mantissa exponent

def readFinite (f : Ieee.Format) (cs : List Char) : Option Nat := do
  let (base, cs) := takeBase cs
  let (whole, cs) := takeDigits base false cs
  if whole.isEmpty then none
  let (fraction, cs) :=
    match cs with
    | '.' :: cs => takeDigits base false cs
    | cs => ([], cs)
  let exponent ← takeExponent base cs
  let digits := valueOf base (whole ++ fraction)
  let magnitude :=
    if base = 16 then ofBinary f digits (exponent - 4 * (fraction.length : Int))
    else f.ofDecimal ⟨digits, exponent - (fraction.length : Int)⟩
  if magnitude < f.infinity then some magnitude else none

def readPayload (f : Ieee.Format) (cs : List Char) : Option Nat :=
  match takeDigits 16 false cs with
  | (d :: ds, []) =>
    let n := valueOf 16 (d :: ds)
    if 0 < n ∧ n < Nat.pow 2 (f.precision - 1) then some (f.infinity + n) else none
  | _ => none

def readMagnitude (f : Ieee.Format) (cs : List Char) : Option Nat :=
  match cs with
  | ['i', 'n', 'f'] => some f.infinity
  | ['n', 'a', 'n'] => some f.quietNaN
  | 'n' :: 'a' :: 'n' :: ':' :: '0' :: 'x' :: cs => readPayload f cs
  | cs => readFinite f cs

def readFloat (f : Ieee.Format) (cs : List Char) : Option Nat :=
  let (negative, body) := takeSign cs
  (readMagnitude f body).map (f.withSign negative)

end ModuleHost.Wasm.Text
