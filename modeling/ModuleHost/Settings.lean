import ModuleHost.Data.Json
import ModuleHost.Data.Toml.Document
import ModuleHost.Failure
import ModuleHost.Files

namespace ModuleHost

structure Settings.Engine where
  pooling : Bool := false
  poolSize : UInt32 := 1000
  slotMb : UInt32 := 64
  metered : Bool := true
  wasi : Bool := false
  stackKb : UInt32 := 512
  deriving DecidableEq, Repr

structure Settings.Limits where
  memoryMb : UInt32 := 128
  fuel : Option UInt64 := none
  deriving DecidableEq, Repr

structure Settings where
  engine : Settings.Engine := {}
  limits : Settings.Limits := {}
  deriving DecidableEq, Repr

namespace Settings

def bytesPerMb : Nat := 1024 * 1024

def Engine.stackBytes (e : Engine) : Nat :=
  e.stackKb.toNat * 1024

def Engine.slotBytes (e : Engine) : Nat :=
  e.slotMb.toNat * bytesPerMb

def Limits.memoryBytes (l : Limits) : Nat :=
  l.memoryMb.toNat * bytesPerMb

open Data (Tree fieldOr)

def word32 (t : Tree) : Option UInt32 :=
  (t.asNat UInt32.size).map UInt32.ofNat

def optionalWord64 (t : Tree) : Option (Option UInt64) :=
  (t.asOptionalNat UInt64.size).map (·.map UInt64.ofNat)

def Engine.names : List String :=
  ["pooling_allocator", "max_instances", "instance_memory_mb", "consume_fuel", "wasi",
    "max_wasm_stack_kb"]

def Engine.ofTree (mayGoOn : Bool) (t : Tree) : Option Engine := do
  match ← t.fields names mayGoOn with
  | [pooling, instances, memory, fuel, wasi, stack] =>
    let defaults : Engine := {}
    let pooling ← fieldOr Tree.asBoolean defaults.pooling pooling
    let instances ← fieldOr word32 defaults.poolSize instances
    let memory ← fieldOr word32 defaults.slotMb memory
    let fuel ← fieldOr Tree.asBoolean defaults.metered fuel
    let wasi ← fieldOr Tree.asBoolean defaults.wasi wasi
    let stack ← fieldOr word32 defaults.stackKb stack
    return ⟨pooling, instances, memory, fuel, wasi, stack⟩
  | _ => none

def Limits.names : List String :=
  ["max_memory_mb", "default_fuel"]

def Limits.ofTree (mayGoOn : Bool) (t : Tree) : Option Limits := do
  match ← t.fields names mayGoOn with
  | [memory, fuel] =>
    let defaults : Limits := {}
    let memory ← fieldOr word32 defaults.memoryMb memory
    let fuel ← fieldOr optionalWord64 defaults.fuel fuel
    return ⟨memory, fuel⟩
  | _ => none

/-- Settings from a document. `mayGoOn` lets an array that stands for a record have items beyond
its fields. -/
def ofTree (mayGoOn : Bool) (t : Tree) : Option Settings := do
  match ← t.fields ["engine", "limits"] mayGoOn with
  | [engine, limits] =>
    let engine ← fieldOr (Engine.ofTree mayGoOn) {} engine
    let limits ← fieldOr (Limits.ofTree mayGoOn) {} limits
    return ⟨engine, limits⟩
  | _ => none

def ofJson (text : String) : Option Settings :=
  (Data.Json.read text).bind (ofTree false)

def ofToml (text : String) : Except Failure Settings :=
  match Data.Toml.read text with
  | .error fault => .error (.settings fault.message)
  | .ok tree =>
    match ofTree true tree with
    | some settings => .ok settings
    | none => .error (.settings "a field has a value of another type")

def ofFile (read : Files.Reader) (path : String) : Except Failure Settings :=
  match read.text path with
  | .error fault => .error (.settings ("failed to read '" ++ path ++ "': " ++ fault.message))
  | .ok text => ofToml text

def ofEnvironment (read : Files.Reader) (path : Option String) : Except Failure Settings :=
  match path with
  | none => .ok {}
  | some path => if path.isEmpty then .ok {} else ofFile read path

end Settings

end ModuleHost
