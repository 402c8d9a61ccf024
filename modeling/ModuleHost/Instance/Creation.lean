import ModuleHost.GuestModule
import ModuleHost.Instance.Basic
import ModuleHost.Linking
import ModuleHost.Pool

namespace ModuleHost.Instance

open Wasm

def budget (engine : Settings.Engine) (limits : Settings.Limits) (fuel : Option UInt64) :
    Option Nat :=
  if engine.metered then
    some ((fuel.or limits.fuel).map UInt64.toNat |>.getD (UInt64.size - 1))
  else none

def maxPages (engine : Settings.Engine) (limits : Settings.Limits) (l : Limits) : Nat :=
  let declared := min (l.max.getD 65536) (limits.memoryBytes / pageSize)
  if engine.pooling then min declared (GuestModule.slotPages engine) else declared

def maxEntries (engine : Settings.Engine) (t : TableType) : Nat :=
  let declared := t.limits.max.getD (UInt32.size - 1)
  if engine.pooling then min declared GuestModule.pooledTableSize else declared

def makeMemories (engine : Settings.Engine) (limits : Settings.Limits) :
    List Limits → Except Failure (List Memory)
  | [] => .ok []
  | l :: ls =>
    if l.min * pageSize ≤ limits.memoryBytes then
      (makeMemories engine limits ls).map (Memory.ofPages l.min (maxPages engine limits l) :: ·)
    else
      .error (.instantiation
        ("memory minimum size of " ++ toString l.min ++ " pages exceeds memory limits"))

def makeTable (engine : Settings.Engine) (t : TableType) : Table :=
  Table.ofSize t.limits.min (maxEntries engine t)

def runOps : List Op → Config → Exit
  | [], c => .next c
  | o :: os, c =>
    match o.run c with
    | .next c => runOps os c
    | e => e

def evaluate (s : Store) (e : ConstExpr) : Slot :=
  match runOps e ⟨s, #[], [], 0⟩ with
  | .next c => c.stack.headD 0
  | _ => 0

def makeGlobals (s : Store) (globals : List Global) : Store :=
  globals.foldl (fun s g => { s with globals := s.globals.push (evaluate s g.init) }) s

def references (s : Store) (e : Elem) : List Slot :=
  e.items.map (evaluate s)

/-- The store before any segment is copied. Only passive segments are left for the guest to use. -/
def makeStore (engine : Settings.Engine) (m : Module) (memories : List Memory) : Store :=
  let s : Store := { Store.empty with
    memories := memories.toArray
    tables := m.tables.map (makeTable engine) }
  let s := makeGlobals s m.globals.toList
  { s with
    elems := m.elems.map fun e =>
      if e.mode = .passive then references s e else []
    datas := m.datas.map fun d => if d.mode = .passive then d.bytes else [] }

def copyElems (s : Store) : List Elem → Except Trap Store
  | [] => .ok s
  | e :: es =>
    match e.mode with
    | .active t offset =>
      let entries := references s e
      let dst := evaluate s offset
      if s.fitsTable t dst entries 0 entries.length then
        copyElems (s.initTable t dst entries 0 entries.length) es
      else .error .tableOutOfBounds
    | _ => copyElems s es

def copyDatas (s : Store) : List Data → Except Trap Store
  | [] => .ok s
  | d :: ds =>
    match d.mode with
    | .active m offset =>
      let dst := evaluate s offset
      if s.fitsMemory m dst d.bytes 0 d.bytes.length then
        copyDatas (s.initMemory m dst d.bytes 0 d.bytes.length) ds
      else .error .memoryOutOfBounds
    | _ => copyDatas s ds

def copySegments (m : Module) (s : Store) : Except Trap Store := do
  copyDatas (← copyElems s m.elems.toList) m.datas.toList

def runStart (p : Program) (s : Store) : Except GuestFault Store :=
  match p.module.start with
  | none => .ok s
  | some f =>
    match p.call f [] s with
    | .done _ s => .ok s
    | .stop reason _ => .error (.inGuest reason)

def create (engine : Engine) (limits : Settings.Limits) (pool : Pool) (m : GuestModule)
    (fuel : Option UInt64) : Except Failure (Instance × Pool) := do
  let settings := engine.settings
  let calls ← (Linking.resolve settings.wasi m.module).mapError (.instantiation ·.message)
  let pool ← pool.acquire.mapError .instantiation
  let memories ← makeMemories settings limits m.module.memories.toList
  let program : Program := {
    module := m.module
    hostCalls := calls.toArray
    outside := engine.runtime.outside
    budget := budget settings limits fuel
    maxDepth := engine.runtime.nesting settings.stackBytes }
  let store ← (copySegments m.module (makeStore settings m.module memories)).mapError fun t =>
    (⟨[], .trap t⟩ : GuestFault).toCreationFailure
  let store ← (runStart program store).mapError GuestFault.toCreationFailure
  let exports := m.module.exports.map fun e => (e.name, e.target)
  return (⟨program, exports, store, m.fingerprint⟩, pool)

end ModuleHost.Instance
