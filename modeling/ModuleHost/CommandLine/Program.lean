import ModuleHost.CommandLine.Arguments
import ModuleHost.Registry

namespace ModuleHost.CommandLine

structure Report where
  activity : String
  failure : Failure
  deriving DecidableEq, Repr

namespace Report

def indentLines (indent text : String) : String :=
  String.intercalate ("\n" ++ indent) ((text.toList.splitOn '\n').map String.ofList)

def write (r : Report) : String :=
  let cause :=
    match r.failure.cause with
    | none => "    " ++ indentLines "    " r.failure.message
    | some below =>
      "    0: " ++ indentLines "       " r.failure.message ++ "\n" ++
        "    1: " ++ indentLines "       " below
  "Error: " ++ r.activity ++ "\n\nCaused by:\n" ++ cause ++ "\n"

end Report

def during (activity : String) (answer : Except Failure α) : Except Report α :=
  answer.mapError fun failure => ⟨activity, failure⟩

def writeLines (lines : List String) : String :=
  lines.foldl (fun acc line => acc ++ line ++ "\n") ""

def listingLine (e : GuestModule.Listing) : String :=
  let line := "export " ++ e.kind ++ " " ++ e.name
  match e.signature with
  | some s => line ++ ": " ++ s.write
  | none => line

def loadSettings (read : Files.Reader) (config : Option String) : Except Report Settings :=
  match config with
  | some path =>
    during ("Failed to load settings from '" ++ path ++ "'") (Settings.ofFile read path)
  | none => .ok {}

def loadModule (read : Files.Reader) (r : Registry) (path : String) : Except Report GuestModule :=
  during ("Failed to load module '" ++ path ++ "'") (GuestModule.ofFile r.engine read path)

def Command.perform (read : Files.Reader) (r : Registry) :
    Command → Except Report (List String)
  | .run path name interface fuel args => do
    let m ← loadModule read r path
    let (h, r) ← during "Failed to instantiate module" (r.createFrom m fuel)
    let results ← during ("Call to '" ++ name ++ "' failed") (r.call h interface name args).1
    return results.map Value.write
  | .inspect path => do
    let m ← loadModule read r path
    return ("hash: " ++ m.fingerprint) :: m.imports.map ("import " ++ ·) ++
      m.exports.map listingLine

def Invocation.perform [Runtime] (read : Files.Reader) (i : Invocation) :
    Except Report (List String) := do
  let settings ← loadSettings read i.config
  let r ← during "Failed to create engine" (Registry.create settings)
  i.command.perform read r

structure Outcome where
  exitCode : Nat
  stdout : String
  stderr : String
  deriving DecidableEq, Repr

def versionText : String := "wasmgate 0.1.0\n"

def usageText : String :=
  "Usage: wasmgate [--config FILE] [--json-logs] <run|inspect> ...\n" ++
    "  run [--interface NAME] [--fuel N] <module> <export> [TYPE:VALUE]...\n" ++
    "  inspect <module>\n"

def runProgram [Runtime] (words : List String) (setting : Option String) (read : Files.Reader) :
    Outcome :=
  match Invocation.read words setting with
  | .error .usage => ⟨2, "", usageText⟩
  | .error .help => ⟨0, usageText, ""⟩
  | .error .version => ⟨0, versionText, ""⟩
  | .ok invocation =>
    match invocation.perform read with
    | .ok lines => ⟨0, writeLines lines, ""⟩
    | .error report => ⟨1, "", report.write⟩

end ModuleHost.CommandLine
