import ModuleHost.Data.Toml.Table

namespace ModuleHost.Data.Toml

def skipBlanks (cs : List Char) : List Char :=
  cs.dropWhile isBlank

def skipComment : List Char → List Char
  | '#' :: rest => rest.dropWhile isPlain
  | cs => cs

def isBare (c : Char) : Bool :=
  c.isAlphanum || c = '_' || c = '-'

def simpleKey : Reader String
  | '"' :: rest => basicString [] rest
  | '\'' :: rest => literalString [] rest
  | cs =>
    let key := cs.takeWhile isBare
    if key.isEmpty then .error (unexpectedHere cs)
    else .ok (String.ofList key, cs.dropWhile isBare)

def dottedKey : Nat → Reader (List String)
  | 0, _ => .error .tooDeep
  | parts + 1, cs => do
    let (first, rest) ← simpleKey (skipBlanks cs)
    match skipBlanks rest with
    | '.' :: more =>
      let (others, rest) ← dottedKey parts more
      return (first :: others, rest)
    | rest => return ([first], rest)

def depthBound : Nat := 79

def keyPath (cs : List Char) : Except Fault ((List String × String) × List Char) := do
  let (parts, rest) ← dottedKey depthBound cs
  return ((parts.dropLast, parts.getLastD ""), rest)

def skipLines : Nat → List Char → List Char
  | 0, cs => cs
  | steps + 1, cs =>
    let cs' := skipComment (skipBlanks cs)
    match lineBreak cs' with
    | some rest => skipLines steps rest
    | none => cs'

def arrayItems (item : Reader Value) : Nat → List Value → Reader (List Value)
  | 0, _, cs => .error (unexpectedHere cs)
  | steps + 1, items, cs =>
    match skipLines cs.length cs with
    | ']' :: rest => .ok (items.reverse, rest)
    | cs => do
      let (v, rest) ← item cs
      match skipLines rest.length rest with
      | ',' :: rest => arrayItems item steps (v :: items) rest
      | ']' :: rest => return ((v :: items).reverse, rest)
      | rest => .error (unexpectedHere rest)

def keyValue (value : Reader Value) : Reader ((List String × String) × Value) := fun cs => do
  let (key, rest) ← keyPath cs
  match rest with
  | '=' :: rest =>
    let (v, rest) ← value (skipBlanks rest)
    return ((key, v), rest)
  | rest => .error (unexpectedHere rest)

def inlineEntries (value : Reader Value) : Nat → Entries → Reader Entries
  | 0, _, cs => .error (unexpectedHere cs)
  | steps + 1, entries, cs => do
    let (((path, key), v), rest) ← keyValue value (skipBlanks cs)
    let entries ← entries.addDotted path key v
    match skipBlanks rest with
    | ',' :: rest => inlineEntries value steps entries rest
    | '\x7d' :: rest => return (entries, rest)
    | rest => .error (unexpectedHere rest)

def scalar (cs : List Char) : Except Fault (Value × List Char) :=
  let (text, rest) := numericText cs
  match String.ofList text with
  | "" => .error (unexpectedHere cs)
  | "true" => .ok (.boolean true, rest)
  | "false" => .ok (.boolean false, rest)
  | s =>
    match integer text with
    | some n => .ok (.integer n, rest)
    | none =>
      match float text with
      | some bits => .ok (.float bits, rest)
      | none => if isDateTime text then .ok (.dateTime, rest) else .error (.badNumber s)

def value (depth : Nat) : Reader Value := fun cs =>
  match cs with
  | '"' :: _ | '\'' :: _ => (string cs).map fun (s, rest) => (.text s, rest)
  | '[' :: rest =>
    match depth with
    | 0 => .error .tooDeep
    | depth + 1 => do
      let (items, rest) ← arrayItems (value depth) (rest.length + 1) [] rest
      return (.array items, rest)
  | '\x7b' :: rest =>
    match depth with
    | 0 => .error .tooDeep
    | depth + 1 =>
      match skipBlanks rest with
      | '\x7d' :: rest => .ok (.table .inline [], rest)
      | rest => do
        let (entries, rest) ← inlineEntries (value depth) (rest.length + 1) [] rest
        return (.table .inline entries, rest)
  | _ => scalar cs

structure State where
  root : Entries
  current : List String

def endOfLine (cs : List Char) : Except Fault (List Char) :=
  match skipComment (skipBlanks cs) with
  | [] => .ok []
  | rest =>
    match lineBreak rest with
    | some rest => .ok rest
    | none => .error (unexpectedHere rest)

def headerName (closing : List Char) (cs : List Char) :
    Except Fault ((List String × String) × List Char) := do
  let (key, rest) ← keyPath cs
  if closing.isPrefixOf rest then return (key, rest.drop closing.length)
  else .error (unexpectedHere rest)

def line (state : State) (cs : List Char) : Except Fault (State × List Char) :=
  match skipBlanks cs with
  | '[' :: '[' :: rest => do
    let ((path, key), rest) ← headerName [']', ']'] rest
    let root ← state.root.at (Entries.appendTable key) path
    let rest ← endOfLine rest
    return (⟨root, path ++ [key]⟩, rest)
  | '[' :: rest => do
    let ((path, key), rest) ← headerName [']'] rest
    let root ← state.root.at (Entries.openTable key) path
    let rest ← endOfLine rest
    return (⟨root, path ++ [key]⟩, rest)
  | cs =>
    match skipComment cs with
    | [] => .ok (state, [])
    | rest =>
      match lineBreak rest with
      | some rest => .ok (state, rest)
      | none => do
        let (((path, key), v), rest) ← keyValue (value depthBound) rest
        let root ← state.root.at (fun entries => entries.addDotted path key v) state.current
        let rest ← endOfLine rest
        return (⟨root, state.current⟩, rest)

def lines : Nat → State → List Char → Except Fault Entries
  | _, state, [] => .ok state.root
  | 0, _, cs => .error (unexpectedHere cs)
  | steps + 1, state, cs => do
    let (state, rest) ← line state cs
    lines steps state rest

def read (text : String) : Except Fault Tree :=
  let cs :=
    match text.toList with
    | '\ufeff' :: rest => rest
    | cs => cs
  (lines cs.length ⟨[], []⟩ cs).map fun root => .table (entriesToTrees root)

end ModuleHost.Data.Toml
