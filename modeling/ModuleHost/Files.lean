import ModuleHost.Text.Utf8

namespace ModuleHost

inductive Files.Node where
  | file (bytes : List UInt8)
  | directory

/-- Files and directories by their paths from the working directory. A later entry of a path
stands for an earlier one. -/
abbrev Files := List (List String × Files.Node)

namespace Files

inductive Fault where
  | notFound
  | isDirectory
  | notADirectory
  | notUtf8
  deriving DecidableEq, Repr

def Fault.message : Fault → String
  | notFound => "No such file or directory (os error 2)"
  | isDirectory => "Is a directory (os error 21)"
  | notADirectory => "Not a directory (os error 20)"
  | notUtf8 => "stream did not contain valid UTF-8"

def split (path : String) : List String :=
  (path.toList.splitOn '/').map String.ofList

def node (files : Files) (path : List String) : Option Node :=
  if path.isEmpty then some .directory
  else
    match files.reverse.lookup path with
    | some n => some n
    | none =>
      if files.any fun e => path.isPrefixOf e.1 then some .directory else none

def walk (files : Files) : List String → List String → Except Fault (List String × Node)
  | here, [] =>
    match node files here with
    | some n => .ok (here, n)
    | none => .error .notFound
  | here, part :: parts =>
    match node files here with
    | none => .error .notFound
    | some (.file _) => .error .notADirectory
    | some .directory =>
      if part = "" ∨ part = "." then walk files here parts
      else if part = ".." then
        if here.isEmpty then .error .notFound else walk files here.dropLast parts
      else walk files (here ++ [part]) parts

def read (files : Files) (path : String) : Except Fault (List UInt8) :=
  if path.isEmpty ∨ path.startsWith "/" then .error .notFound
  else
    match walk files [] (split path) with
    | .error fault => .error fault
    | .ok (_, .directory) => .error .isDirectory
    | .ok (_, .file bytes) => .ok bytes

abbrev Reader := String → Except Fault (List UInt8)

def Reader.text (read : Reader) (path : String) : Except Fault String :=
  match read path with
  | .error fault => .error fault
  | .ok bytes => (Utf8.decode bytes).mapError fun _ => .notUtf8

def fileName (path : String) : Option String :=
  ((split path).reverse.find? fun part => part ≠ "" ∧ part ≠ ".").filter (· ≠ "..")

/-- What follows the last point of a file's name, unless the name starts there. -/
def extension (path : String) : Option String := do
  let name := (← fileName path).toList
  let after := name.reverse.takeWhile (· ≠ '.')
  if name.length ≤ after.length + 1 then none else some (String.ofList after.reverse)

end Files

end ModuleHost
