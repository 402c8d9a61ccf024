import ModuleHost.Failure
import ModuleHost.Wasm.Operation

namespace ModuleHost

/-- Why a run stopped. The outermost layer of context comes first. -/
structure GuestFault where
  layers : List String
  cause : Wasm.Stop
  deriving DecidableEq, Repr

def Wasm.Stop.message : Wasm.Stop → String
  | trap t => t.message
  | host message => message
  | stuck => "guest code cannot go on"

namespace GuestFault

def backtrace : String :=
  "error while executing at wasm backtrace:"

def inGuest (cause : Wasm.Stop) : GuestFault :=
  ⟨[backtrace], cause⟩

def outermost (e : GuestFault) : String :=
  e.layers.headD e.cause.message

def chain (e : GuestFault) : String :=
  String.intercalate ": " (e.layers ++ [e.cause.message])

def toCallFailure (e : GuestFault) : Failure :=
  match e.cause with
  | .trap .outOfFuel => .fuelExhausted
  | .trap t => .trap t.message (some t.code)
  | _ => .trap e.outermost none

def toCreationFailure (e : GuestFault) : Failure :=
  match e.cause with
  | .trap .outOfFuel => .instantiation "fuel exhausted while running the start function"
  | .trap t => .instantiation ("start function trapped: " ++ t.message)
  | _ => .instantiation e.chain

end GuestFault

end ModuleHost
