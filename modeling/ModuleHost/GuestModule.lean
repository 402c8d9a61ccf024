import ModuleHost.Fingerprint
import ModuleHost.Engine
import ModuleHost.Signature
import ModuleHost.Wasm.Memory
import ModuleHost.Wasm.Validation.Module

namespace ModuleHost

structure GuestModule where
  module : Wasm.Module
  fingerprint : String

namespace GuestModule

open Wasm (ModuleFault)

def pooledTableSize : Nat := 20000

def slotPages (e : Settings.Engine) : Nat :=
  e.slotBytes / Wasm.pageSize

/-- In a pool, every instance has one memory and one table at most, and they must fit. -/
def checkSlot (e : Settings.Engine) (m : Wasm.Module) : Except ModuleFault Unit := do
  if e.pooling then
    if 1 < m.memories.size then .error (.exceedsSlot "the number of memories")
    if 1 < m.tables.size then .error (.exceedsSlot "the number of tables")
    if m.memories.any fun l => slotPages e < l.min then .error (.exceedsSlot "a memory")
    if m.tables.any fun t => pooledTableSize < t.limits.min then .error (.exceedsSlot "a table")

def accept (engine : Engine) (m : Except ModuleFault Wasm.Module) :
    Except ModuleFault Wasm.Module := do
  let m ← m
  Wasm.Validation.check m
  checkSlot engine.settings m
  return m

def magic : List UInt8 :=
  Wasm.Binary.magic

def ofBytes (engine : Engine) (bytes : List UInt8) : Except Failure GuestModule :=
  if bytes.length < 8 then .error (.invalidModule "file too small")
  else if !magic.isPrefixOf bytes then .error (.invalidModule "bad magic number")
  else
    match accept engine (Wasm.Binary.decode bytes) with
    | .ok m => .ok ⟨m, ModuleHost.fingerprint bytes⟩
    | .error fault => .error (.invalidModule fault.message)

def ofText (engine : Engine) (text : String) : Except Failure GuestModule :=
  match accept engine (engine.runtime.assemble text >>= Wasm.Binary.decode) with
  | .ok m => .ok ⟨m, ModuleHost.fingerprint (Utf8.encode text)⟩
  | .error fault => .error (.invalidModule ("WAT compilation failed: " ++ fault.message))

def ofFile (engine : Engine) (read : Files.Reader) (path : String) : Except Failure GuestModule :=
  match read path with
  | .error fault => .error (.io fault.message)
  | .ok bytes =>
    if Files.extension path = some "wat" then
      match Utf8.decode bytes with
      | .error fault => .error (.invalidModule ("WAT is not UTF-8: " ++ fault.message))
      | .ok text => ofText engine text
    else ofBytes engine bytes

def imports (m : GuestModule) : List String :=
  m.module.importNames

structure Listing where
  name : String
  kind : String
  signature : Option Signature
  deriving DecidableEq, Repr

def listing (m : Wasm.Module) (e : Wasm.Export) : Listing :=
  let signature :=
    match e.target with
    | .func f => (m.funcType f).bind fun t => (Signature.ofExport e.name t).toOption
    | _ => none
  ⟨e.name, e.target.kind, signature⟩

def exports (m : GuestModule) : List Listing :=
  m.module.exports.map (listing m.module)

def describe (m : GuestModule) : String :=
  "CompiledModule \x7b content_hash: \"" ++ m.fingerprint ++ "\", .. \x7d"

end GuestModule

end ModuleHost
