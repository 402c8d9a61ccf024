import ModuleHost.Boundary.ErrorSlot
import ModuleHost.Boundary.Slots
import ModuleHost.Registry

/-!
# The host as other programs see it

It has one registry, whose settings the environment names, and an error slot for each of its
threads. Calls from outside signal failure by a null handle or by `false` and leave the message in
the slot of their thread. When the settings are unusable, every call that needs the registry fails
with the same message.
-/

namespace ModuleHost.Boundary

abbrev Thread := Nat

structure Embedding where
  registry : Except Failure Registry
  errors : Thread → ErrorSlot

namespace Embedding

def start [Runtime] (read : Files.Reader) (path : Option String) : Embedding :=
  ⟨Settings.ofEnvironment read path >>= Registry.create, fun _ => none⟩

variable (p : Embedding)

def theRegistry : Except Failure Registry :=
  p.registry.mapError fun e => .invalidConfig e.message

def setError (t : Thread) (slot : ErrorSlot) : Embedding :=
  { p with errors := fun u => if u = t then slot else p.errors u }

def fail (t : Thread) (e : Failure) : Embedding :=
  p.setError t (.ofFailure e)

def size : Except Failure Nat :=
  p.theRegistry.map Registry.size

def fuelOf (fuel : UInt64) : Option UInt64 :=
  if fuel = 0 then none else some fuel

def create (wasm : Option (List UInt8)) (fuel : UInt64) : Except Failure (Handle × Registry) := do
  let r ← p.theRegistry
  match wasm with
  | none => .error (.invalidArgument "`wasm.ptr` must not be null")
  | some bytes => r.createOf bytes (fuelOf fuel)

/-- Create an instance; the handle is zero on failure. Success leaves no message pending. -/
def createInstance (t : Thread) (wasm : Option (List UInt8)) (fuel : UInt64) : Handle × Embedding :=
  match p.create wasm fuel with
  | .ok (h, r) => (h, { p with registry := .ok r }.setError t none)
  | .error e => (0, p.fail t e)

def destroyInstance (t : Thread) (h : Handle) : Embedding :=
  if h = 0 then p
  else
    match p.theRegistry >>= (·.destroy h) with
    | .ok r => { p with registry := .ok r }
    | .error e => p.fail t e

def readString (what : String) (bytes : List UInt8) : Except Failure String :=
  (Utf8.decode (bytes.takeWhile (· ≠ 0))).mapError fun fault =>
    .invalidArgument ("`" ++ what ++ "` is not valid UTF-8: " ++ fault.message)

def readTarget (h : Handle) (interface name : Option (List UInt8)) :
    Except Failure (Option String × String × Registry) := do
  if h = 0 then .error (.invalidArgument "`instance_ptr` must not be null")
  let interface ← interface.mapM (readString "instance")
  match name with
  | none => .error (.invalidArgument "`name` must not be null")
  | some bytes =>
    let name ← readString "name" bytes
    return (interface, name, ← p.theRegistry)

/-- Call an exported function of an instance with slots for its values. Everything that can be
checked is checked before the guest runs. -/
def callOn (i : Instance) (interface : Option String) (name : String) (slots : PointerArray) :
    Except Failure PointerArray × Instance :=
  let prepared : Except Failure (Signature × List Value) := do
    let s ← i.signature interface name
    let args ← slots.arguments s
    slots.requireRoom s
    return (s, args)
  match prepared with
  | .error e => (.error e, i)
  | .ok (s, args) =>
    match i.call interface name args with
    | (.error e, i) => (.error e, i)
    | (.ok results, i) => (slots.deliver s results, i)

def invoke (t : Thread) (h : Handle) (interface name : Option (List UInt8))
    (slots : PointerArray) : Bool × PointerArray × Embedding :=
  match p.readTarget h interface name with
  | .error e => (false, slots, p.fail t e)
  | .ok (interface, name, r) =>
    match r.use h (callOn · interface name slots) with
    | (.ok slots, r) => (true, slots, { p with registry := .ok r })
    | (.error e, r) => (false, slots, { p with registry := .ok r }.fail t e)

def pendingLength (t : Thread) : Nat :=
  (p.errors t).length

def drainError (t : Thread) (capacity : Option Nat) : List UInt8 × Embedding :=
  let (bytes, slot) := (p.errors t).take capacity
  (bytes, p.setError t slot)

/-- Take the thread's pending message into a buffer: how many bytes were written, and the buffer
afterwards. What the message does not reach is left as it was. -/
def takeError (t : Thread) (buffer : Option (List UInt8)) : Nat × Option (List UInt8) × Embedding :=
  let (bytes, p) := p.drainError t (buffer.map List.length)
  (bytes.length, buffer.map fun old => bytes ++ old.drop bytes.length, p)

end Embedding

end ModuleHost.Boundary
