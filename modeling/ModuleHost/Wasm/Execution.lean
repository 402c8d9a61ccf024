import ModuleHost.Wasm.Module
import ModuleHost.Wasm.Operation

/-!
# Execution

Running the functions of a module. Fuel is counted in the running function and told to the store
when it calls, when it returns and where it is checked; what a trap overtakes is not told. Fuel is
looked at when a function is entered and at the start of each round of a loop. A limit on nested
calls bounds the guest's stack. The number of steps of a function is bounded too, far beyond what
fuel allows, so that running is a total function.
-/

namespace ModuleHost.Wasm

/-- A module linked to its system calls, with the bounds on a run of it. -/
structure Program where
  module : Module
  hostCalls : Array Wasi.Call
  outside : Wasi.Outside
  budget : Option Nat
  maxDepth : Nat

inductive CallExit where
  | done (results : List Slot) (store : Store)
  | stop (reason : Stop) (store : Store)

/-- The topmost operands. Of a shorter stack, those that it lacks read as zero. -/
def takeOperands : Nat → List Slot → List Slot
  | 0, _ => []
  | count + 1, [] => 0 :: takeOperands count []
  | count + 1, a :: s => a :: takeOperands count s

def Op.cost : Op → Nat
  | nop | drop => 0
  | _ => 1

def Instr.cost : Instr → Nat
  | op o => o.cost
  | unreachable | block .. | loop .. | ret => 0
  | ifElse .. | br _ | brIf _ | brTable .. | call _ | callIndirect .. | returnCall _
  | returnCallIndirect .. => 1

def Func.localCount (f : Func) : Nat :=
  f.locals.foldl (fun count run => count + run.1) 0

namespace Program

variable (p : Program)

def isExhausted (spent : Nat) : Bool :=
  match p.budget with
  | some budget => budget ≤ spent
  | none => false

def fuelLeft (s : Store) : Option Nat :=
  p.budget.map (· - s.fuelSpent)

def sharedMemory : Option Nat :=
  match p.module.exports.find? (·.name = "memory") with
  | some ⟨_, .memory i⟩ => some i
  | _ => none

def funcType (f : Nat) : FuncType :=
  match p.hostCalls[f]? with
  | some call => call.type
  | none =>
    match p.module.funcs[f - p.hostCalls.size]? with
    | some func => p.module.types.getD func.type ⟨[], []⟩
    | none => ⟨[], []⟩

def arity (type : BlockType) : Nat × Nat :=
  match p.module.blockType type with
  | some t => (t.params.length, t.results.length)
  | none => (0, 0)

def serve (call : Wasi.Call) (args : List Slot) (s : Store) : CallExit :=
  match p.sharedMemory with
  | none => .stop (.host "missing required memory export") s
  | some m =>
    match Wasi.serve p.outside call args (s.memory m) s.descriptors with
    | .returns results memory context =>
      .done results { s.modifyMemory m (fun _ => memory) with wasi := some context }
    | .ends message memory context =>
      .stop (.host message) { s.modifyMemory m (fun _ => memory) with wasi := some context }

end Program

/-- A block that has been entered: how many results it leaves, the code after it, and the operands
outside. A loop starts again on a branch to it, with its parameters. -/
structure Label where
  results : Nat
  rest : List Instr
  outside : List Slot
  again : Option (Nat × Instr)

def Label.leave (l : Label) (stack : List Slot) : List Slot :=
  takeOperands l.results stack ++ l.outside

def Label.branch (l : Label) (stack : List Slot) : List Instr × List Slot :=
  match l.again with
  | none => (l.rest, l.leave stack)
  | some (params, loop) => (loop :: l.rest, takeOperands params stack ++ l.outside)

/-- What comes after a step: more code, a call and then more code, another function in place of this
one, or the end of the function. -/
inductive Next where
  | go (code : List Instr) (labels : List Label) (c : Config)
  | call (f : Nat) (code : List Instr) (labels : List Label) (c : Config)
  | tail (f : Nat) (c : Config)
  | finish (c : Config)
  | stop (reason : Stop) (store : Store)

def branchTo (label : Nat) (labels : List Label) (c : Config) : Next :=
  match labels.drop label with
  | [] => .finish c
  | l :: labels =>
    let (code, stack) := l.branch c.stack
    .go code labels { c with stack := stack }

namespace Program

variable (p : Program)

def enter (type : BlockType) (body : List Instr) (again : Option Instr) (code : List Instr)
    (labels : List Label) (stack : List Slot) (c : Config) : Next :=
  let (params, results) := p.arity type
  let label : Label := ⟨results, code, stack.drop params, again.map (params, ·)⟩
  .go body (label :: labels) { c with stack := takeOperands params stack }

def lookup (table type i : Nat) (s : Store) : Except Trap Nat :=
  if (s.table table).contains i 1 then
    match (s.table table).get i with
    | 0 => .error .indirectCallToNull
    | f + 1 => if some (p.funcType f) = p.module.types[type]? then .ok f else .error .badSignature
  else .error .tableOutOfBounds

def perform (i : Instr) (code : List Instr) (labels : List Label) (c : Config) : Next :=
  match i with
  | .op o =>
    match o.run c with
    | .next c => .go code labels c
    | .stop reason s => .stop reason s
  | .unreachable => .stop (.trap .unreachableCodeReached) c.save
  | .block type body => p.enter type body none code labels c.stack c
  | .loop type body =>
    if p.isExhausted c.spent then .stop (.trap .outOfFuel) c.save
    else p.enter type body (some (.loop type body)) code labels c.stack c
  | .ifElse type yes no =>
    match c.stack with
    | condition :: stack =>
      p.enter type (if condition = 0 then no else yes) none code labels stack c
    | [] => .stop .stuck c.store
  | .br label => branchTo label labels c
  | .brIf label =>
    match c.stack with
    | condition :: stack =>
      if condition = 0 then .go code labels { c with stack := stack }
      else branchTo label labels { c with stack := stack }
    | [] => .stop .stuck c.store
  | .brTable targets otherwise =>
    match c.stack with
    | index :: stack => branchTo (targets.getD index otherwise) labels { c with stack := stack }
    | [] => .stop .stuck c.store
  | .ret => .finish c
  | .call f => .call f code labels c
  | .callIndirect table type =>
    match c.stack with
    | index :: stack =>
      match p.lookup table type index c.store with
      | .ok f => .call f code labels { c with stack := stack }
      | .error t => .stop (.trap t) c.save
    | [] => .stop .stuck c.store
  | .returnCall f => .tail f c
  | .returnCallIndirect table type =>
    match c.stack with
    | index :: stack =>
      match p.lookup table type index c.store with
      | .ok f => .tail f { c with stack := stack }
      | .error t => .stop (.trap t) c.save
    | [] => .stop .stuck c.store

@[inline] def step (code : List Instr) (labels : List Label) (c : Config) : Next :=
  match code, labels with
  | [], [] => .finish c
  | [], l :: labels => .go l.rest labels { c with stack := l.leave c.stack }
  | i :: code, labels => p.perform i code labels { c with spent := c.spent + i.cost }

@[inline] def dispatch (enter : Func → List Slot → Store → CallExit) (f : Nat) (args : List Slot)
    (s : Store) : CallExit :=
  match p.hostCalls[f]? with
  | some call => p.serve call args.reverse s
  | none =>
    match p.module.funcs[f - p.hostCalls.size]? with
    | some func => enter func args s
    | none => .stop .stuck s

@[inline] def enterWith (body : Config → CallExit) (func : Func) (args : List Slot) (s : Store) :
    CallExit :=
  let spent := s.fuelSpent + 1
  if p.isExhausted spent then .stop (.trap .outOfFuel) { s with fuelSpent := spent }
  else body ⟨s, args.reverse.toArray ++ Array.replicate func.localCount 0, [], spent⟩

def argsOf (f : Nat) (c : Config) : List Slot :=
  takeOperands (p.funcType f).params.length c.stack

@[inline] def callFrom (call : Nat → List Slot → Store → CallExit) (f : Nat) (c : Config) : Exit :=
  let type := p.funcType f
  match call f (p.argsOf f c) c.save with
  | .stop reason s => .stop reason s
  | .done results s =>
    let stack := takeOperands type.results.length results ++ c.stack.drop type.params.length
    .next ⟨s, c.locals, stack, s.fuelSpent⟩

/-- Run code inside some blocks, up to the end of its function or of the one that takes its place.
`call` calls other functions, and the number bounds the steps. -/
def run (call : Nat → List Slot → Store → CallExit) :
    Nat → List Instr → List Label → Config → CallExit
  | 0, _, _, c => .stop .stuck c.store
  | steps + 1, code, labels, c =>
    match p.step code labels c with
    | .go code labels c => run call steps code labels c
    | .call f code labels c =>
      match p.callFrom call f c with
      | .next c => run call steps code labels c
      | .stop reason s => .stop reason s
    | .tail f c =>
      p.dispatch (fun func => p.enterWith (run call steps func.body []) func) f (p.argsOf f c)
        c.save
    | .finish c => .done c.stack c.save
    | .stop reason s => .stop reason s

def maxSteps : Nat := 0x4000_0000_0000_0000

/-- Call a function that may nest so many calls of functions of the guest, itself included. Each of
them has steps of its own. -/
def callAt : Nat → Nat → List Slot → Store → CallExit
  | 0 => p.dispatch fun _ _ s => .stop (.trap .stackOverflow) s
  | depth + 1 =>
    p.dispatch fun func =>
      p.enterWith (p.run (callAt depth) (maxSteps + func.body.length) func.body []) func

def call (f : Nat) (args : List Slot) (s : Store) : CallExit :=
  match p.callAt p.maxDepth f args.reverse s with
  | .stop reason s => .stop reason s
  | .done results s => .done (takeOperands (p.funcType f).results.length results).reverse s

end Program

end ModuleHost.Wasm
