import ModuleHost.Wasm.Store
import ModuleHost.Wasm.Vector

namespace ModuleHost.Wasm

inductive Stop where
  | trap (t : Trap)
  | host (message : String)
  /-- No rule says how to go on: an operand or an index is missing, which validation rules out, or
  the number of steps has no bound. -/
  | stuck
  deriving DecidableEq, Repr

/-- A running function. Its operand stack starts with the top; `spent` is the fuel that has been
spent, ahead of what the store knows of. -/
structure Config where
  store : Store
  locals : Array Slot
  stack : List Slot
  spent : Nat

inductive Exit where
  | next (c : Config)
  | stop (reason : Stop) (store : Store)

namespace Config

variable (c : Config)

def stuck : Exit :=
  .stop .stuck c.store

def trap (t : Trap) : Exit :=
  .stop (.trap t) c.store

def save : Store :=
  { c.store with fuelSpent := c.spent }

@[inline] def pop (go : Slot → List Slot → Exit) : Exit :=
  match c.stack with
  | a :: s => go a s
  | _ => c.stuck

@[inline] def pop₂ (go : Slot → Slot → List Slot → Exit) : Exit :=
  match c.stack with
  | b :: a :: s => go a b s
  | _ => c.stuck

@[inline] def pop₃ (go : Slot → Slot → Slot → List Slot → Exit) : Exit :=
  match c.stack with
  | d :: b :: a :: s => go a b d s
  | _ => c.stuck

@[inline] def popMany (count : Nat) (go : List Slot → List Slot → Exit) : Exit :=
  if count ≤ c.stack.length then go (c.stack.take count) (c.stack.drop count) else c.stuck

def push (v : Slot) (s : List Slot) : Exit :=
  .next { c with stack := v :: s }

def pushResult (v : Except Trap Slot) (s : List Slot) : Exit :=
  match v with
  | .ok v => c.push v s
  | .error t => c.trap t

@[inline] def withStore (change : Store → Store) (s : List Slot) : Exit :=
  match c with
  | ⟨store, locals, _, spent⟩ => .next ⟨change store, locals, s, spent⟩

@[inline] def withLocal (i : Nat) (v : Slot) (s : List Slot) : Exit :=
  match c with
  | ⟨store, locals, _, spent⟩ => .next ⟨store, locals.setIfInBounds i v, s, spent⟩

end Config

def loaded (type : ValType) (bytes : Nat) (signed : Bool) (n : Nat) : Slot :=
  if signed then signExtend (if type = .i64 then .w64 else .w32) (8 * bytes) n else n

def growFailed : Slot := 0xFFFF_FFFF

def VarOp.run (op : VarOp) (c : Config) : Exit :=
  match op with
  | localGet i => c.push (c.locals.getD i 0) c.stack
  | localSet i => c.pop fun a s => c.withLocal i a s
  | localTee i => c.pop fun a _ => c.withLocal i a c.stack
  | globalGet i => c.push (c.store.global i) c.stack
  | globalSet i => c.pop fun a s => c.withStore (·.setGlobal i a) s

def MemoryOp.run (op : MemoryOp) (c : Config) : Exit :=
  match op with
  | load type bytes signed arg =>
    c.pop fun a s =>
      let m := c.store.memory arg.memory
      let a := a + arg.offset
      if m.contains a bytes then c.push (loaded type bytes signed (m.readNat a bytes)) s
      else c.trap .memoryOutOfBounds
  | store _ bytes arg =>
    c.pop₂ fun a v s =>
      let a := a + arg.offset
      if (c.store.memory arg.memory).contains a bytes then
        c.withStore (·.modifyMemory arg.memory fun m => m.writeNat a bytes v) s
      else c.trap .memoryOutOfBounds
  | vectorLoad how arg =>
    c.pop fun a s =>
      let m := c.store.memory arg.memory
      let a := a + arg.offset
      if m.contains a how.bytes then c.push (how.apply (m.readNat a how.bytes)) s
      else c.trap .memoryOutOfBounds
  | laneLoad w lane arg =>
    c.pop₂ fun a v s =>
      let m := c.store.memory arg.memory
      let a := a + arg.offset
      if m.contains a w.bytes then c.push (w.replace v lane (m.readNat a w.bytes)) s
      else c.trap .memoryOutOfBounds
  | laneStore w lane arg =>
    c.pop₂ fun a v s =>
      let a := a + arg.offset
      if (c.store.memory arg.memory).contains a w.bytes then
        c.withStore (·.modifyMemory arg.memory fun m => m.writeNat a w.bytes (w.lane v lane)) s
      else c.trap .memoryOutOfBounds
  | size m => c.push (c.store.memory m).pages c.stack
  | grow m =>
    c.pop fun delta s =>
      let pages := (c.store.memory m).pages
      if (c.store.memory m).mayGrow delta then
        c.withStore (·.modifyMemory m fun m => m.grow delta) (pages :: s)
      else c.push growFailed s
  | fill m =>
    c.pop₃ fun dst v count s =>
      if (c.store.memory m).contains dst count then
        let bytes := List.replicate count (UInt8.ofNat v)
        c.withStore (·.modifyMemory m fun m => m.write dst bytes) s
      else c.trap .memoryOutOfBounds
  | copy dstMemory srcMemory =>
    c.pop₃ fun dst src count s =>
      if (c.store.memory srcMemory).contains src count ∧
          (c.store.memory dstMemory).contains dst count then
        let bytes := (c.store.memory srcMemory).read src count
        c.withStore (·.modifyMemory dstMemory fun m => m.write dst bytes) s
      else c.trap .memoryOutOfBounds
  | init m data =>
    c.pop₃ fun dst src count s =>
      let bytes := c.store.data data
      if c.store.fitsMemory m dst bytes src count then
        c.withStore (·.initMemory m dst bytes src count) s
      else c.trap .memoryOutOfBounds
  | drop data =>
    .next { c with store.datas := c.store.datas.setIfInBounds data [] }

def TableOp.run (op : TableOp) (c : Config) : Exit :=
  match op with
  | get t =>
    c.pop fun i s =>
      if (c.store.table t).contains i 1 then c.push ((c.store.table t).get i) s
      else c.trap .tableOutOfBounds
  | set t =>
    c.pop₂ fun i v s =>
      if (c.store.table t).contains i 1 then
        c.withStore (·.modifyTable t fun t => t.write i [v]) s
      else c.trap .tableOutOfBounds
  | size t => c.push (c.store.table t).size c.stack
  | grow t =>
    c.pop₂ fun entry delta s =>
      let size := (c.store.table t).size
      if (c.store.table t).mayGrow delta then
        c.withStore (·.modifyTable t fun t => t.grow delta entry) (size :: s)
      else c.push growFailed s
  | fill t =>
    c.pop₃ fun dst v count s =>
      if (c.store.table t).contains dst count then
        c.withStore (·.modifyTable t fun t => t.write dst (List.replicate count v)) s
      else c.trap .tableOutOfBounds
  | copy dstTable srcTable =>
    c.pop₃ fun dst src count s =>
      if (c.store.table srcTable).contains src count ∧
          (c.store.table dstTable).contains dst count then
        let entries := (c.store.table srcTable).read src count
        c.withStore (·.modifyTable dstTable fun t => t.write dst entries) s
      else c.trap .tableOutOfBounds
  | init t elem =>
    c.pop₃ fun dst src count s =>
      let entries := c.store.elem elem
      if c.store.fitsTable t dst entries src count then
        c.withStore (·.initTable t dst entries src count) s
      else c.trap .tableOutOfBounds
  | drop elem =>
    .next { c with store.elems := c.store.elems.setIfInBounds elem [] }

def Op.run (op : Op) (c : Config) : Exit :=
  match op with
  | nop => .next c
  | drop => c.pop fun _ s => .next { c with stack := s }
  | select _ => c.pop₃ fun a b d s => c.push (if d = 0 then b else a) s
  | const _ bits => c.push bits c.stack
  | unary op => c.pop fun a s => c.pushResult (op.apply a) s
  | binary op => c.pop₂ fun a b s => c.pushResult (op.apply a b) s
  | vector op => c.popMany op.type.1.length fun args s => c.push (op.apply args) s
  | var op => op.run c
  | memory op => op.run c
  | table op => op.run c
  | refNull _ => c.push nullRef c.stack
  | refIsNull => c.pop fun a s => c.push (ofBool (a = nullRef)) s
  | refFunc f => c.push (funcRef f) c.stack

end ModuleHost.Wasm
