import ModuleHost.Data.Tree
import ModuleHost.Data.Toml.Scalar

namespace ModuleHost.Data.Toml

inductive Origin where
  | inline
  | header
  /-- An inner part of a header's name. -/
  | implied
  | dotted
  deriving DecidableEq, Repr

inductive Value where
  | text (s : String)
  | integer (n : Int)
  | float (bits : Nat)
  | boolean (b : Bool)
  | dateTime
  | array (items : List Value)
  | tables (newest : List (String × Value)) (older : List (List (String × Value)))
  | table (origin : Origin) (entries : List (String × Value))
  deriving Inhabited

abbrev Entries := List (String × Value)

def Entries.replace (entries : Entries) (key : String) (value : Value) : Entries :=
  entries.map fun e => if e.1 = key then (key, value) else e

def Entries.add (entries : Entries) (key : String) (value : Value) : Except Fault Entries :=
  match entries.lookup key with
  | none => .ok (entries ++ [(key, value)])
  | some _ => .error (.duplicateKey key)

def Entries.addDotted (entries : Entries) (path : List String) (key : String) (value : Value) :
    Except Fault Entries :=
  match path with
  | [] => entries.add key value
  | first :: path =>
    match entries.lookup first with
    | none => do
      let inner ← Entries.addDotted [] path key value
      return entries ++ [(first, .table .dotted inner)]
    | some (.table .dotted inner) => do
      let inner ← Entries.addDotted inner path key value
      return entries.replace first (.table .dotted inner)
    | some (.table .implied inner) =>
      if path.isEmpty then .error (.duplicateKey key)
      else do
        let inner ← Entries.addDotted inner path key value
        return entries.replace first (.table .implied inner)
    | some (.tables newest older) =>
      if path.isEmpty then .error (.duplicateKey key)
      else do
        let newest ← Entries.addDotted newest path key value
        return entries.replace first (.tables newest older)
    | some _ => .error (.duplicateKey first)

def Entries.at (change : Entries → Except Fault Entries) :
    List String → Entries → Except Fault Entries
  | [], entries => change entries
  | first :: path, entries =>
    match entries.lookup first with
    | none => do
      let inner ← Entries.at change path []
      return entries ++ [(first, .table .implied inner)]
    | some (.table .inline _) => .error (.duplicateKey first)
    | some (.table origin inner) => do
      let inner ← Entries.at change path inner
      return entries.replace first (.table origin inner)
    | some (.tables newest older) => do
      let newest ← Entries.at change path newest
      return entries.replace first (.tables newest older)
    | some _ => .error (.duplicateKey first)

/-- A header `[key]` at its parent: it defines a new table, or one that was only implied. -/
def Entries.openTable (key : String) (entries : Entries) : Except Fault Entries :=
  match entries.lookup key with
  | none => .ok (entries ++ [(key, .table .header [])])
  | some (.table .implied inner) => .ok (entries.replace key (.table .header inner))
  | some _ => .error (.duplicateKey key)

def Entries.appendTable (key : String) (entries : Entries) : Except Fault Entries :=
  match entries.lookup key with
  | none => .ok (entries ++ [(key, .tables [] [])])
  | some (.tables newest older) => .ok (entries.replace key (.tables [] (newest :: older)))
  | some _ => .error (.duplicateKey key)

mutual

def Value.toTree : Value → Tree
  | .text s => .text (some s)
  | .integer n => .integer n
  | .float _ => .float
  | .boolean b => .boolean b
  | .dateTime => .dateTime
  | .array items => .array (listToTrees items)
  | .tables newest older => .array (tablesToTrees older ++ [.table (entriesToTrees newest)])
  | .table _ entries => .table (entriesToTrees entries)

def listToTrees : List Value → List Tree
  | [] => []
  | v :: vs => v.toTree :: listToTrees vs

def entriesToTrees : List (String × Value) → List (Option String × Tree)
  | [] => []
  | (k, v) :: es => (some k, v.toTree) :: entriesToTrees es

def tablesToTrees : List (List (String × Value)) → List Tree
  | [] => []
  | t :: ts => tablesToTrees ts ++ [.table (entriesToTrees t)]

end

end ModuleHost.Data.Toml
