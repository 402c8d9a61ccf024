import ModuleHost.Data.Tree
import ModuleHost.Text.Digits

namespace ModuleHost.Data.Json

abbrev Reader (α : Type) := List Char → Option (α × List Char)

def isBlank (c : Char) : Bool :=
  c = ' ' || c = '\n' || c = '\t' || c = '\r'

def skipBlanks (cs : List Char) : List Char :=
  cs.dropWhile isBlank

def unit (digits : List Char) : Option Nat :=
  (digits.mapM (Digits.valueIn 16)).map fun values => values.foldl (fun acc d => 16 * acc + d) 0

def escaped : Char → Option Char
  | '"' => some '"'
  | '\\' => some '\\'
  | '/' => some '/'
  | 'b' => some '\x08'
  | 'f' => some '\x0c'
  | 'n' => some '\n'
  | 'r' => some '\r'
  | 't' => some '\t'
  | _ => none

/-- What a string denotes so far: its characters, newest first, and the first half of a surrogate
pair if one awaits the second. Half a pair alone leaves no text. -/
structure StringState where
  chars : Option (List Char)
  high : Option Nat

def StringState.push (p : StringState) (c : Char) : StringState :=
  match p.high with
  | none => ⟨p.chars.map (c :: ·), none⟩
  | some _ => ⟨none, none⟩

def StringState.pushUnit (p : StringState) (n : Nat) : StringState :=
  match p.high with
  | some high =>
    if 0xdc00 ≤ n ∧ n ≤ 0xdfff then
      let c := Char.ofNat (0x10000 + (high - 0xd800) * 0x400 + (n - 0xdc00))
      ⟨p.chars.map (c :: ·), none⟩
    else ⟨none, none⟩
  | none =>
    if 0xd800 ≤ n ∧ n ≤ 0xdbff then ⟨p.chars, some n⟩
    else if 0xdc00 ≤ n ∧ n ≤ 0xdfff then ⟨none, none⟩
    else p.push (Char.ofNat n)

def StringState.text (p : StringState) : Option String :=
  match p.high with
  | none => p.chars.map fun cs => String.ofList cs.reverse
  | some _ => none

def stringRest (p : StringState) : Reader (Option String)
  | [] => none
  | '"' :: rest => some (p.text, rest)
  | '\\' :: 'u' :: a :: b :: c :: d :: rest =>
    match unit [a, b, c, d] with
    | some n => stringRest (p.pushUnit n) rest
    | none => none
  | '\\' :: x :: rest =>
    match escaped x with
    | some c => stringRest (p.push c) rest
    | none => none
  | c :: rest => if c ≠ '\\' ∧ ' ' ≤ c then stringRest (p.push c) rest else none

def string : Reader (Option String) :=
  stringRest ⟨some [], none⟩

def unsignedNumber (cs : List Char) : Option (List Char × Bool × List Char) :=
  let whole := cs.takeWhile Digits.isDecimal
  let rest := cs.dropWhile Digits.isDecimal
  let wellFormed :=
    match whole with
    | [] => false
    | ['0'] => true
    | c :: _ => c ≠ '0'
  let fraction :=
    match rest with
    | '.' :: more =>
      let ds := more.takeWhile Digits.isDecimal
      if ds.isEmpty then none else some (true, more.drop ds.length)
    | _ => some (false, rest)
  let exponent (rest : List Char) :=
    match rest with
    | mark :: more =>
      if mark = 'e' ∨ mark = 'E' then
        let body :=
          match more with
          | '+' :: ds => ds
          | '-' :: ds => ds
          | ds => ds
        let ds := body.takeWhile Digits.isDecimal
        if ds.isEmpty then none else some (true, body.drop ds.length)
      else some (false, rest)
    | [] => some (false, rest)
  if wellFormed then do
    let (hasFraction, rest) ← fraction
    let (hasExponent, rest) ← exponent rest
    return (whole, !hasFraction && !hasExponent, rest)
  else none

def digitsValue (ds : List Char) : Nat :=
  ds.foldl (fun acc c => 10 * acc + (c.toNat - '0'.toNat)) 0

def number (cs : List Char) : Option (Tree × List Char) := do
  let (negative, body) :=
    match cs with
    | '-' :: rest => (true, rest)
    | rest => (false, rest)
  let (digits, isInteger, rest) ← unsignedNumber body
  let n := digitsValue digits
  let exact := if negative then 0 < n ∧ n ≤ 0x8000_0000_0000_0000 else n < UInt64.size
  if isInteger ∧ exact then return (.integer (if negative then - (n : Int) else n), rest)
  else return (.float, rest)

def moreItems (value : Reader Tree) : Nat → List Tree → Reader (List Tree)
  | 0, _, _ => none
  | steps + 1, items, cs =>
    match skipBlanks cs with
    | ']' :: rest => some (items.reverse, rest)
    | ',' :: rest => do
      let (v, rest) ← value rest
      moreItems value steps (v :: items) rest
    | _ => none

def member (value : Reader Tree) (cs : List Char) :
    Option ((Option String × Tree) × List Char) :=
  match skipBlanks cs with
  | '"' :: rest => do
    let (name, rest) ← string rest
    match skipBlanks rest with
    | ':' :: rest =>
      let (v, rest) ← value rest
      return ((name, v), rest)
    | _ => none
  | _ => none

def moreMembers (value : Reader Tree) : Nat → List (Option String × Tree) →
    Reader (List (Option String × Tree))
  | 0, _, _ => none
  | steps + 1, members, cs =>
    match skipBlanks cs with
    | '\x7d' :: rest => some (members.reverse, rest)
    | ',' :: rest => do
      let (m, rest) ← member value rest
      moreMembers value steps (m :: members) rest
    | _ => none

def value (depth : Nat) : Reader Tree := fun cs =>
  match skipBlanks cs with
  | 'n' :: 'u' :: 'l' :: 'l' :: rest => some (.null, rest)
  | 't' :: 'r' :: 'u' :: 'e' :: rest => some (.boolean true, rest)
  | 'f' :: 'a' :: 'l' :: 's' :: 'e' :: rest => some (.boolean false, rest)
  | '"' :: rest => (string rest).map fun (s, rest) => (.text s, rest)
  | '[' :: rest =>
    match depth, skipBlanks rest with
    | 0, _ => none
    | _ + 1, ']' :: rest => some (.array [], rest)
    | depth + 1, rest => do
      let (v, rest) ← value depth rest
      let (items, rest) ← moreItems (value depth) (rest.length + 1) [v] rest
      return (.array items, rest)
  | '\x7b' :: rest =>
    match depth, skipBlanks rest with
    | 0, _ => none
    | _ + 1, '\x7d' :: rest => some (.table [], rest)
    | depth + 1, rest => do
      let (m, rest) ← member (value depth) rest
      let (members, rest) ← moreMembers (value depth) (rest.length + 1) [m] rest
      return (.table members, rest)
  | cs => number cs

def read (text : String) : Option Tree :=
  let cs := text.toList
  match value (cs.length + 1) cs with
  | some (tree, rest) => if (skipBlanks rest).isEmpty then some tree else none
  | none => none

end ModuleHost.Data.Json
