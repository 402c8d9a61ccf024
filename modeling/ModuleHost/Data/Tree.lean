namespace ModuleHost.Data

/-- A document. A text is absent where the format lets an ill-formed one pass; no reader accepts
it. -/
inductive Tree where
  | null
  | boolean (b : Bool)
  | integer (n : Int)
  | float
  | text (s : Option String)
  | dateTime
  | array (items : List Tree)
  | table (entries : List (Option String × Tree))
  deriving Inhabited

namespace Tree

def asBoolean : Tree → Option Bool
  | boolean b => some b
  | _ => none

def asNat (bound : Nat) : Tree → Option Nat
  | integer n => if 0 ≤ n ∧ n < bound then some n.toNat else none
  | _ => none

def asOptionalNat (bound : Nat) : Tree → Option (Option Nat)
  | null => some none
  | t => (asNat bound t).map some

def entry (entries : List (Option String × Tree)) (name : String) : Option (Option Tree) :=
  match entries.filter fun e => e.1 = some name with
  | [] => some none
  | [e] => some (some e.2)
  | _ => none

/-- The fields of a record. A table gives them by name, each at most once, other names aside; an
array gives the first of them in order. Whether an array may go on beyond the last field is up to
the format. A date and time is a table without any of the names. -/
def fields (names : List String) (mayGoOn : Bool) : Tree → Option (List (Option Tree))
  | table entries =>
    if entries.all fun e => e.1.isSome then names.mapM (entry entries) else none
  | array items =>
    if mayGoOn || items.length ≤ names.length then
      some ((List.range names.length).map fun i => items[i]?)
    else none
  | dateTime => some (names.map fun _ => none)
  | _ => none

end Tree

def fieldOr (read : Tree → Option α) (default : α) : Option Tree → Option α
  | none => some default
  | some t => read t

end ModuleHost.Data
