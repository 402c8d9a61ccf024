namespace ModuleHost.Digits

inductive Fault where
  | empty
  | invalidDigit
  | tooLarge
  | tooSmall
  deriving DecidableEq, Repr

def Fault.message : Fault → String
  | .empty => "cannot parse integer from empty string"
  | .invalidDigit => "invalid digit found in string"
  | .tooLarge => "number too large to fit in target type"
  | .tooSmall => "number too small to fit in target type"

def value (c : Char) : Option Nat :=
  if '0' ≤ c ∧ c ≤ '9' then some (c.toNat - '0'.toNat)
  else if 'a' ≤ c ∧ c ≤ 'z' then some (c.toNat - 'a'.toNat + 10)
  else if 'A' ≤ c ∧ c ≤ 'Z' then some (c.toNat - 'A'.toNat + 10)
  else none

def valueIn (base : Nat) (c : Char) : Option Nat :=
  (value c).filter (· < base)

def isDecimal (c : Char) : Bool :=
  '0' ≤ c && c ≤ '9'

def readMagnitude (base bound : Nat) (overflow : Fault) : Nat → List Char → Except Fault Nat
  | acc, [] => .ok acc
  | acc, c :: cs =>
    match valueIn base c with
    | none => .error .invalidDigit
    | some d =>
      let next := base * acc + d
      if next ≤ bound then readMagnitude base bound overflow next cs else .error overflow

def readUnsigned (base bound : Nat) : List Char → Except Fault Nat
  | [] => .error .empty
  | ['+'] => .error .invalidDigit
  | '+' :: cs => readMagnitude base bound .tooLarge 0 cs
  | cs => readMagnitude base bound .tooLarge 0 cs

def readSigned (base bound : Nat) : List Char → Except Fault Int
  | [] => .error .empty
  | ['+'] => .error .invalidDigit
  | ['-'] => .error .invalidDigit
  | '+' :: cs => (readMagnitude base bound .tooLarge 0 cs).map Int.ofNat
  | '-' :: cs => (readMagnitude base (bound + 1) .tooSmall 0 cs).map fun n => - Int.ofNat n
  | cs => (readMagnitude base bound .tooLarge 0 cs).map Int.ofNat

def write (base n : Nat) : List Char :=
  Nat.toDigits base n

def writePadded (base width n : Nat) : List Char :=
  (write base n).leftpad width '0'

def hex (n : Nat) : String :=
  "0x" ++ String.ofList (write 16 n)

end ModuleHost.Digits
