import ModuleHost.CommandLine.Program

namespace ModuleHost.CommandLine

def readOne (path : String) : IO (Except Files.Fault (List UInt8)) := do
  try
    return .ok (← IO.FS.readBinFile path).toList
  catch
    | .noFileOrDirectory .. => return .error .notFound
    | .inappropriateType _ code _ =>
      return .error (if code = 21 then .isDirectory else .notADirectory)
    | _ => return .error .isDirectory

def pathsOf (i : Invocation) : List String :=
  let module :=
    match i.command with
    | .run module .. => module
    | .inspect module => module
  i.config.toList ++ [module]

end ModuleHost.CommandLine

open ModuleHost CommandLine

def main (words : List String) : IO UInt32 := do
  let setting ← IO.getEnv "WASMGATE_CONFIG"
  let paths :=
    match Invocation.read words setting with
    | .ok i => pathsOf i
    | .error _ => []
  let files ← paths.mapM fun path => return (path, ← readOne path)
  let read : Files.Reader := fun path => (files.lookup path).getD (.error .notFound)
  let outcome := runProgram words setting read
  IO.print outcome.stdout
  IO.eprint outcome.stderr
  return UInt32.ofNat outcome.exitCode
