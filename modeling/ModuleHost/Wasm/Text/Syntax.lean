import ModuleHost.Text.Utf8
import ModuleHost.Wasm.Fault
import ModuleHost.Wasm.Text.Number

namespace ModuleHost.Wasm.Text

inductive Token where
  | leftParen
  | rightParen
  | word (text : String)
  | bytes (value : List UInt8)
  deriving DecidableEq, Repr

inductive Expr where
  | word (text : String)
  | bytes (value : List UInt8)
  | list (items : List Expr)

def refuse (what : String) : Except ModuleFault α :=
  .error (.text what)

def isConfusing (c : Char) : Bool :=
  "\u202a\u202b\u202d\u202e\u2066\u2067\u2068\u206c\u2069".toList.contains c

def skipBlocks : Nat → List Char → Option (List Char)
  | 0, cs => some cs
  | depth + 1, ';' :: ')' :: cs => skipBlocks depth cs
  | depth + 1, '(' :: ';' :: cs => skipBlocks (depth + 2) cs
  | depth + 1, c :: cs => if isConfusing c then none else skipBlocks (depth + 1) cs
  | _ + 1, [] => none

def isLineEnd (c : Char) : Bool :=
  c = '\n' ∨ c = '\r'

def isWordChar (c : Char) : Bool :=
  c.isAlphanum || "!#$%&'*+-./:<=>?@\\^_`|~".toList.contains c

def escaped : Char → Option Char
  | 't' => some '\t'
  | 'n' => some '\n'
  | 'r' => some '\r'
  | '"' => some '"'
  | '\'' => some '\''
  | '\\' => some '\\'
  | _ => none

def scalar (digits : List Char) : Option Char :=
  match takeDigits 16 false digits with
  | (d :: ds, []) =>
    let n := valueOf 16 (d :: ds)
    if n.isValidChar then some (Char.ofNat n) else none
  | _ => none

def quoted : Nat → List Char → Option (List UInt8 × List Char)
  | 0, _ => none
  | _, [] => none
  | _, '"' :: cs => some ([], cs)
  | steps + 1, '\\' :: 'u' :: '\x7b' :: cs => do
    let c ← scalar (cs.takeWhile (· ≠ '\x7d'))
    let (rest, cs) ← quoted steps (cs.dropWhile (· ≠ '\x7d')).tail
    return (String.utf8EncodeChar c ++ rest, cs)
  | steps + 1, '\\' :: c :: cs =>
    match escaped c, cs with
    | some c, cs => do
      let (rest, cs) ← quoted steps cs
      return (UInt8.ofNat c.toNat :: rest, cs)
    | none, low :: cs => do
      let high ← Digits.valueIn 16 c
      let low ← Digits.valueIn 16 low
      let (rest, cs) ← quoted steps cs
      return (UInt8.ofNat (16 * high + low) :: rest, cs)
    | none, [] => none
  | steps + 1, c :: cs => do
    if c < ' ' ∨ c = '\x7f' ∨ isConfusing c then none
    let (rest, cs) ← quoted steps cs
    return (String.utf8EncodeChar c ++ rest, cs)

def readText (bytes : List UInt8) : Except ModuleFault String :=
  (Utf8.decode bytes).mapError fun _ => .malformedName

def isSeparated (cs : List Char) : Bool :=
  !cs.head?.any fun c => c = '"' ∨ isWordChar c

def takeString (cs : List Char) : Except ModuleFault (List UInt8 × List Char) :=
  match quoted (cs.length + 1) cs with
  | some (value, rest) => if isSeparated rest then .ok (value, rest) else refuse "unexpected token"
  | none => refuse "invalid string"

def tokens : Nat → List Token → List Char → Except ModuleFault (List Token)
  | 0, _, _ => refuse "no end of the text"
  | _, read, [] => .ok read.reverse
  | steps + 1, read, ';' :: ';' :: cs =>
    if (cs.takeWhile (!isLineEnd ·)).any isConfusing then refuse "confusing character"
    else tokens steps read (cs.dropWhile (!isLineEnd ·))
  | steps + 1, read, '(' :: ';' :: cs =>
    match skipBlocks 1 cs with
    | some cs => tokens steps read cs
    | none => refuse "unterminated block comment"
  | steps + 1, read, '(' :: cs => tokens steps (.leftParen :: read) cs
  | steps + 1, read, ')' :: cs => tokens steps (.rightParen :: read) cs
  | steps + 1, read, '"' :: cs => do
    let (value, cs) ← takeString cs
    tokens steps (.bytes value :: read) cs
  | steps + 1, read, '$' :: '"' :: cs => do
    let (value, cs) ← takeString cs
    tokens steps (.word ("$" ++ (← readText value)) :: read) cs
  | steps + 1, read, c :: cs =>
    if c = ' ' ∨ c = '\t' ∨ isLineEnd c then tokens steps read cs
    else if isWordChar c then
      let rest := cs.dropWhile isWordChar
      if isSeparated rest then
        tokens steps (.word (String.ofList (c :: cs.takeWhile isWordChar)) :: read) rest
      else refuse "unexpected token"
    else refuse "unexpected character"

def isAnnotation : List Expr → Bool
  | .word w :: _ => w.startsWith "@"
  | _ => false

/-- Nest tokens. `outer` holds what stands before each open parenthesis and `here` what stands
after the last one, newest first. -/
def nest : List (List Expr) → List Expr → List Token → Except ModuleFault (List Expr)
  | outer, here, .leftParen :: ts => nest (here :: outer) [] ts
  | before :: outer, here, .rightParen :: ts =>
    nest outer (if isAnnotation here.reverse then before else .list here.reverse :: before) ts
  | [], _, .rightParen :: _ => refuse "unexpected parenthesis"
  | outer, here, .word w :: ts => nest outer (.word w :: here) ts
  | outer, here, .bytes b :: ts => nest outer (.bytes b :: here) ts
  | [], here, [] => .ok here.reverse
  | _ :: _, _, [] => refuse "expected a closing parenthesis"

def expressions (text : String) : Except ModuleFault (List Expr) := do
  let cs := text.toList
  nest [] [] (← tokens (cs.length + 1) [] cs)

end ModuleHost.Wasm.Text
