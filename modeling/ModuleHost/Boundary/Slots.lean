import ModuleHost.Signature

namespace ModuleHost.Boundary

abbrev Cell := Vector UInt8 16

namespace Cell

def read (c : Cell) (kind : Value.Kind) : Value :=
  Value.ofBits kind (ofLittleEndian (c.toList.take kind.size))

def write (c : Cell) (bytes : List UInt8) : Cell :=
  Vector.ofFn fun i => bytes.getD i (c.get i)

end Cell

/-- An array of pointers. Those after the listed ones are null. -/
abbrev PointerArray := Option (List (Option Cell))

namespace PointerArray

def pointers (a : PointerArray) (s : Signature) : Except Failure (List (Option Cell)) :=
  if s.pointerCount = 0 then .ok []
  else
    match a with
    | none =>
      .error (.invalidArgument ("`args` must not be null for signature " ++ s.write))
    | some cells => .ok ((List.range s.pointerCount).map fun i => cells.getD i none)

def readFrom : Nat → List Value.Kind → List (Option Cell) → Except Failure (List Value)
  | index, kind :: kinds, cell :: cells =>
    match cell with
    | none =>
      .error (.invalidArgument ("parameter " ++ toString index ++ " (" ++ kind.name ++
        ") pointer is null"))
    | some c => (readFrom (index + 1) kinds cells).map (c.read kind :: ·)
  | _, _, _ => .ok []

def arguments (a : PointerArray) (s : Signature) : Except Failure (List Value) := do
  readFrom 0 s.params (← a.pointers s)

def requireRoom (a : PointerArray) (s : Signature) : Except Failure Unit := do
  match ((← a.pointers s).drop s.params.length).findIdx? Option.isNone with
  | some i => .error (.invalidArgument ("result " ++ toString i ++ " pointer is null"))
  | none => return ()

def writeInto : List Value → List (Option Cell) → List (Option Cell)
  | v :: vs, cell :: cells => cell.map (·.write v.toBytes) :: writeInto vs cells
  | _, cells => cells

def deliver (a : PointerArray) (s : Signature) (results : List Value) :
    Except Failure PointerArray := do
  a.requireRoom s
  let results := results.take s.results.length
  return a.map fun cells =>
    cells.take s.params.length ++ writeInto results (cells.drop s.params.length)

end PointerArray

end ModuleHost.Boundary
