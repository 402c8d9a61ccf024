import ModuleHost.Ieee.Decimal

namespace ModuleHost.Data.Toml

inductive Fault where
  | unexpectedEnd
  | unexpected (c : Char)
  | badEscape
  | badNumber (text : String)
  | duplicateKey (key : String)
  | tooDeep
  deriving DecidableEq, Repr

def Fault.message : Fault → String
  | unexpectedEnd => "unexpected end of input"
  | unexpected c => "unexpected character '" ++ c.toString ++ "'"
  | badEscape => "invalid escape sequence"
  | badNumber text => "invalid number '" ++ text ++ "'"
  | duplicateKey key => "duplicate key '" ++ key ++ "'"
  | tooDeep => "nesting is too deep"

abbrev Reader (α : Type) := List Char → Except Fault (α × List Char)

def unexpectedHere : List Char → Fault
  | [] => .unexpectedEnd
  | c :: _ => .unexpected c

def isBlank (c : Char) : Bool :=
  c = ' ' || c = '\t'

def isPlain (c : Char) : Bool :=
  c = '\t' || (' ' ≤ c && c ≠ '\x7f')

def lineBreak : List Char → Option (List Char)
  | '\n' :: rest => some rest
  | '\r' :: '\n' :: rest => some rest
  | _ => none

def unicode (digits : List Char) : Option Char :=
  match digits.mapM (Digits.valueIn 16) with
  | none => none
  | some values =>
    let n := values.foldl (fun acc d => 16 * acc + d) 0
    if n < 0xd800 ∨ (0xdfff < n ∧ n < 0x110000) then some (Char.ofNat n) else none

def escaped : Char → Option Char
  | 'b' => some '\x08'
  | 't' => some '\t'
  | 'n' => some '\n'
  | 'f' => some '\x0c'
  | 'r' => some '\r'
  | '"' => some '"'
  | '\\' => some '\\'
  | _ => none

def basicString (acc : List Char) : Reader String
  | [] => .error .unexpectedEnd
  | '"' :: rest => .ok (String.ofList acc.reverse, rest)
  | '\\' :: 'u' :: a :: b :: c :: d :: rest =>
    match unicode [a, b, c, d] with
    | some u => basicString (u :: acc) rest
    | none => .error .badEscape
  | '\\' :: 'U' :: a :: b :: c :: d :: e :: f :: g :: h :: rest =>
    match unicode [a, b, c, d, e, f, g, h] with
    | some u => basicString (u :: acc) rest
    | none => .error .badEscape
  | '\\' :: x :: rest =>
    match escaped x with
    | some c => basicString (c :: acc) rest
    | none => .error .badEscape
  | c :: rest =>
    if c ≠ '\\' ∧ isPlain c then basicString (c :: acc) rest else .error (.unexpected c)

def literalString (acc : List Char) : Reader String
  | [] => .error .unexpectedEnd
  | '\'' :: rest => .ok (String.ofList acc.reverse, rest)
  | c :: rest => if isPlain c then literalString (c :: acc) rest else .error (.unexpected c)

def endsLine (cs : List Char) : Bool :=
  (lineBreak (cs.dropWhile isBlank)).isSome

def basicText (acc : List Char) (trimming : Bool) : Reader String
  | [] => .error .unexpectedEnd
  | '"' :: '"' :: '"' :: '"' :: '"' :: rest =>
    .ok (String.ofList ('"' :: '"' :: acc).reverse, rest)
  | '"' :: '"' :: '"' :: '"' :: rest => .ok (String.ofList ('"' :: acc).reverse, rest)
  | '"' :: '"' :: '"' :: rest => .ok (String.ofList acc.reverse, rest)
  | '\\' :: 'u' :: a :: b :: c :: d :: rest =>
    match unicode [a, b, c, d] with
    | some u => basicText (u :: acc) false rest
    | none => .error .badEscape
  | '\\' :: 'U' :: a :: b :: c :: d :: e :: f :: g :: h :: rest =>
    match unicode [a, b, c, d, e, f, g, h] with
    | some u => basicText (u :: acc) false rest
    | none => .error .badEscape
  | '\\' :: x :: rest =>
    match escaped x with
    | some c => basicText (c :: acc) false rest
    | none => if endsLine (x :: rest) then basicText acc true (x :: rest) else .error .badEscape
  | '\r' :: '\n' :: rest =>
    if trimming then basicText acc true rest else basicText ('\n' :: '\r' :: acc) false rest
  | c :: rest =>
    if trimming && (isBlank c || c = '\n') then basicText acc true rest
    else if c = '\n' || (c ≠ '\\' && isPlain c) then basicText (c :: acc) false rest
    else .error (.unexpected c)

def literalText (acc : List Char) : Reader String
  | [] => .error .unexpectedEnd
  | '\'' :: '\'' :: '\'' :: '\'' :: '\'' :: rest =>
    .ok (String.ofList ('\'' :: '\'' :: acc).reverse, rest)
  | '\'' :: '\'' :: '\'' :: '\'' :: rest => .ok (String.ofList ('\'' :: acc).reverse, rest)
  | '\'' :: '\'' :: '\'' :: rest => .ok (String.ofList acc.reverse, rest)
  | '\r' :: '\n' :: rest => literalText ('\n' :: '\r' :: acc) rest
  | c :: rest =>
    if c = '\n' || isPlain c then literalText (c :: acc) rest else .error (.unexpected c)

def skipFirstBreak (cs : List Char) : List Char :=
  (lineBreak cs).getD cs

def string : Reader String
  | '"' :: '"' :: '"' :: rest => basicText [] false (skipFirstBreak rest)
  | '"' :: rest => basicString [] rest
  | '\'' :: '\'' :: '\'' :: rest => literalText [] (skipFirstBreak rest)
  | '\'' :: rest => literalString [] rest
  | cs => .error (unexpectedHere cs)

def grouped (isDigit : Char → Bool) (cs : List Char) : Option (List Char) :=
  let groups := cs.splitOn '_'
  if groups.all fun g => !g.isEmpty && g.all isDigit then some groups.flatten else none

def wholePart (cs : List Char) : Option (List Char) :=
  match cs with
  | '0' :: _ :: _ => none
  | _ => grouped Digits.isDecimal cs

def splitSign : List Char → Bool × List Char
  | '-' :: rest => (true, rest)
  | '+' :: rest => (false, rest)
  | rest => (false, rest)

def markedInteger (base : Nat) (digits : List Char) : Option Int :=
  match grouped (fun c => (Digits.valueIn base c).isSome) digits with
  | none => none
  | some ds =>
    (Digits.readMagnitude base 0x7fff_ffff_ffff_ffff .tooLarge 0 ds).toOption.map Int.ofNat

def integer (cs : List Char) : Option Int :=
  match cs with
  | '0' :: 'x' :: digits => markedInteger 16 digits
  | '0' :: 'o' :: digits => markedInteger 8 digits
  | '0' :: 'b' :: digits => markedInteger 2 digits
  | _ =>
    let (negative, body) := splitSign cs
    match wholePart body with
    | none => none
    | some ds =>
      let n : Int := Ieee.digitsValue ds
      let n := if negative then -n else n
      if -0x8000_0000_0000_0000 ≤ n ∧ n < 0x8000_0000_0000_0000 then some n else none

def exponent (cs : List Char) : Option Int :=
  let (negative, body) := splitSign cs
  (grouped Digits.isDecimal body).map fun ds =>
    if negative then - (Ieee.digitsValue ds : Int) else Ieee.digitsValue ds

def decimalFloat (cs : List Char) : Option Ieee.Decimal :=
  let mantissa := cs.takeWhile fun c => c ≠ 'e' && c ≠ 'E'
  let whole := mantissa.takeWhile (· ≠ '.')
  let hasFraction := mantissa.contains '.'
  let hasExponent := cs.length ≠ mantissa.length
  match wholePart whole,
    if hasFraction then grouped Digits.isDecimal (mantissa.drop (whole.length + 1)) else some [],
    if hasExponent then exponent (cs.drop (mantissa.length + 1)) else some 0 with
  | some w, some f, some e =>
    if hasFraction || hasExponent then some ⟨Ieee.digitsValue (w ++ f), e - (f.length : Int)⟩
    else none
  | _, _, _ => none

def float (cs : List Char) : Option Nat :=
  let format := Ieee.binary64
  let (negative, body) := splitSign cs
  if body = "inf".toList then some (format.withSign negative format.infinity)
  else if body = "nan".toList then some (format.withSign negative format.quietNaN)
  else
    match decimalFloat body with
    | none => none
    | some d =>
      let m := format.ofDecimal d
      if m = format.infinity && !negative then none else some (format.withSign negative m)

def fixedDigits (count : Nat) (cs : List Char) : Option (Nat × List Char) :=
  let ds := cs.take count
  if ds.length = count ∧ ds.all Digits.isDecimal then some (Ieee.digitsValue ds, cs.drop count)
  else none

def after (separator : Char) : List Char → Option (List Char)
  | c :: rest => if c = separator then some rest else none
  | [] => none

def daysIn (year month : Nat) : Nat :=
  if month = 2 then
    if year % 4 = 0 ∧ (year % 100 ≠ 0 ∨ year % 400 = 0) then 29 else 28
  else if month = 4 ∨ month = 6 ∨ month = 9 ∨ month = 11 then 30
  else 31

def date (cs : List Char) : Option (List Char) := do
  let (year, cs) ← fixedDigits 4 cs
  let cs ← after '-' cs
  let (month, cs) ← fixedDigits 2 cs
  let cs ← after '-' cs
  let (day, cs) ← fixedDigits 2 cs
  if 1 ≤ month ∧ month ≤ 12 ∧ 1 ≤ day ∧ day ≤ daysIn year month then some cs else none

def hourMinute (cs : List Char) : Option (List Char) := do
  let (hour, cs) ← fixedDigits 2 cs
  let cs ← after ':' cs
  let (minute, cs) ← fixedDigits 2 cs
  if hour ≤ 23 ∧ minute ≤ 59 then some cs else none

def time (cs : List Char) : Option (List Char) := do
  let cs ← hourMinute cs
  let cs ← after ':' cs
  let (second, cs) ← fixedDigits 2 cs
  if 60 < second then none
  else
    match cs with
    | '.' :: more =>
      let fraction := more.takeWhile Digits.isDecimal
      if fraction.isEmpty then none else some (more.drop fraction.length)
    | _ => some cs

def isOffset : List Char → Bool
  | [] => true
  | [c] => c = 'Z' || c = 'z'
  | sign :: rest => (sign = '+' || sign = '-') && hourMinute rest = some []

def isDateTime (cs : List Char) : Bool :=
  match date cs with
  | none => time cs = some []
  | some [] => true
  | some (mark :: rest) =>
    (mark = 'T' || mark = 't' || mark = ' ') &&
      match time rest with
      | some offset => isOffset offset
      | none => false

def isNumeric (c : Char) : Bool :=
  c.isAlphanum || c = '_' || c = '+' || c = '-' || c = '.' || c = ':'

def numericText (cs : List Char) : List Char × List Char :=
  let text := cs.takeWhile isNumeric
  let rest := cs.dropWhile isNumeric
  match rest with
  | ' ' :: more =>
    let joined := text ++ ' ' :: more.takeWhile isNumeric
    if date text = some [] ∧ isDateTime joined then (joined, more.dropWhile isNumeric)
    else (text, rest)
  | _ => (text, rest)

end ModuleHost.Data.Toml
