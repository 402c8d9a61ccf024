import ModuleHost.Data.Keyed
import ModuleHost.Instance.Creation

namespace ModuleHost

abbrev Handle := UInt64

/-- An engine with the live instances that it has made. `issued` handles have been handed out. -/
structure Registry where
  engine : Engine
  limits : Settings.Limits
  instances : Data.Keyed Handle Instance
  issued : Nat
  pool : Pool

namespace Registry

def create [Runtime] (s : Settings) : Except Failure Registry := do
  let engine ← Engine.create s.engine
  let capacity := if s.engine.pooling then some s.engine.poolSize.toNat else none
  return ⟨engine, s.limits, .empty, 0, Pool.ofCapacity capacity⟩

variable (r : Registry)

def get? (h : Handle) : Option Instance :=
  r.instances.get? h

def contains (h : Handle) : Bool :=
  (r.get? h).isSome

def size : Nat :=
  r.instances.size

def isEmpty : Bool :=
  r.instances.isEmpty

def get (h : Handle) : Except Failure Instance :=
  match r.get? h with
  | some i => .ok i
  | none => .error (.invalidHandle h)

def set (h : Handle) (i : Instance) : Registry :=
  { r with instances := r.instances.put h i }

def use (h : Handle) (act : Instance → Except Failure α × Instance) :
    Except Failure α × Registry :=
  match r.get h with
  | .error e => (.error e, r)
  | .ok i =>
    let (answer, i) := act i
    (answer, r.set h i)

/-- The handle that is handed out next. Past the greatest one, handles begin again; zero is none. -/
def freshHandle : Handle :=
  let h := UInt64.ofNat (r.issued + 1)
  if h = 0 then 1 else h

/-- Hand out a handle for a new instance. An instance that still has the handle leaves its slot. -/
def enroll (i : Instance) (pool : Pool) : Registry :=
  let h := r.freshHandle
  { r with
    instances := r.instances.put h i
    issued := r.issued + 1
    pool := if r.contains h then pool.release else pool }

def createFrom (m : GuestModule) (fuel : Option UInt64) : Except Failure (Handle × Registry) := do
  let (i, pool) ← Instance.create r.engine r.limits r.pool m fuel
  return (r.freshHandle, r.enroll i pool)

def createOf (bytes : List UInt8) (fuel : Option UInt64) : Except Failure (Handle × Registry) := do
  r.createFrom (← GuestModule.ofBytes r.engine bytes) fuel

def destroy (h : Handle) : Except Failure Registry :=
  if r.contains h then
    .ok { r with instances := r.instances.erase h, pool := r.pool.release }
  else .error (.invalidHandle h)

def call (h : Handle) (interface : Option String) (name : String) (args : List Value) :
    Except Failure (List Value) × Registry :=
  r.use h (·.call interface name args)

def signature (h : Handle) (interface : Option String) (name : String) :
    Except Failure Signature := do
  (← r.get h).signature interface name

def fuelLeft (h : Handle) : Except Failure (Option Nat) :=
  (r.get h).map Instance.fuelLeft

def fingerprint (h : Handle) : Except Failure String :=
  (r.get h).map Instance.fingerprint

def readBytes (h : Handle) (offset length : Nat) : Except Failure (List UInt8) := do
  (← r.get h).readBytes offset length

def writeBytes (h : Handle) (offset : Nat) (bytes : List UInt8) : Except Failure Registry := do
  return r.set h (← (← r.get h).writeBytes offset bytes)

def describe : String :=
  "Registry \x7b engine: " ++ r.engine.describe ++ ", live_instances: " ++ toString r.size ++
    ", .. \x7d"

end Registry

end ModuleHost
