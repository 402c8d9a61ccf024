import ModuleHost.GuestFault
import ModuleHost.Signature
import ModuleHost.Wasm.Execution

namespace ModuleHost

structure Instance where
  program : Wasm.Program
  exports : List (String × Wasm.ExportTarget)
  store : Wasm.Store
  fingerprint : String

namespace Instance

variable (i : Instance)

def resolve (name : String) : Except Failure (Nat × Signature) :=
  match i.exports.lookup name with
  | none => .error (.exportNotFound name)
  | some (.func f) => (Signature.ofExport name (i.program.funcType f)).map fun s => (f, s)
  | some target => .error (.notAFunction name target.kind)

def signature (interface : Option String) (name : String) : Except Failure Signature :=
  (i.resolve (qualify interface name)).map Prod.snd

/-- A function of the host has no guest around it when it is called from outside. -/
def isHostFunction (f : Nat) : Bool :=
  f < i.program.hostCalls.size

def enter (f : Nat) (args : List Wasm.Slot) : Wasm.CallExit :=
  if i.isHostFunction f then .stop (.host "missing required memory export") i.store
  else i.program.call f args i.store

def faultOf (f : Nat) (reason : Wasm.Stop) : GuestFault :=
  if i.isHostFunction f then ⟨[], reason⟩ else .inGuest reason

/-- Call an exported function, where `enter` runs a function. It does so only when the export has a
signature and the arguments match it. -/
def callWith (enter : Nat → List Wasm.Slot → Wasm.CallExit) (interface : Option String)
    (name : String) (args : List Value) : Except Failure (List Value) × Instance :=
  let name := qualify interface name
  match i.resolve name with
  | .error e => (.error e, i)
  | .ok (f, signature) =>
    match signature.requireArgs name args with
    | .error e => (.error e, i)
    | .ok () =>
      match enter f (args.map Value.bits) with
      | .stop reason store => (.error (i.faultOf f reason).toCallFailure, { i with store })
      | .done results store =>
        (Signature.collectResults name (i.program.funcType f).results results, { i with store })

def call (interface : Option String) (name : String) (args : List Value) :
    Except Failure (List Value) × Instance :=
  i.callWith i.enter interface name args

def fuelLeft : Option Nat :=
  i.program.fuelLeft i.store

def memoryIndex : Except Failure Nat :=
  match i.exports.lookup "memory" with
  | some (.memory m) => .ok m
  | _ => .error (.invalidArgument "instance does not export 'memory'")

def memoryWith (offset length : Nat) : Except Failure Nat := do
  let m ← i.memoryIndex
  let memory := i.store.memory m
  if memory.contains offset length then return m
  else
    .error (.invalidArgument ("memory access " ++ toString offset ++ "+" ++ toString length ++
      " out of bounds (size " ++ toString memory.size ++ ")"))

def readBytes (offset length : Nat) : Except Failure (List UInt8) :=
  (i.memoryWith offset length).map fun m => (i.store.memory m).read offset length

def writeBytes (offset : Nat) (bytes : List UInt8) : Except Failure Instance :=
  (i.memoryWith offset bytes.length).map fun m =>
    { i with store := i.store.modifyMemory m (·.write offset bytes) }

def describe (id : String) : String :=
  "LiveInstance \x7b instance_id: " ++ id ++ ", content_hash: \"" ++ i.fingerprint ++ "\", .. \x7d"

end Instance

end ModuleHost
