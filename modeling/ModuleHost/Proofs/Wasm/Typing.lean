import ModuleHost.Proofs.Wasm.Growth
import ModuleHost.Proofs.Wasm.Operands
import ModuleHost.Proofs.Wasm.Sized
import ModuleHost.Proofs.Wasm.Validity
import ModuleHost.Proofs.Wasm.Vector

namespace ModuleHost.Wasm

open Validation (Context checkOp find_eq_ok)
open Validation.Operands

/-- An operator takes operands of the first types and leaves operands of the second, the topmost
first. -/
inductive Takes (c : Context) : Op → List ValType → List ValType → Prop
  | nop : Takes c .nop [] []
  | drop (t : ValType) : Takes c .drop [t] []
  | select (type : Option ValType) (t : ValType) : Takes c (.select type) [.i32, t, t] [t]
  | const (t : ValType) (bits : Nat) : Takes c (.const t bits) [] [t]
  | unary (op : Unary) : Takes c (.unary op) [op.type.1] [op.type.2]
  | binary (op : Binary) : Takes c (.binary op) [op.type.1, op.type.1] [op.type.2]
  | vector (op : VectorOp) : Takes c (.vector op) op.type.1.reverse [op.type.2]
  | var {op : VarOp} {type : FuncType} (found : c.varOpType op = .ok type) :
    Takes c (.var op) type.params.reverse type.results.reverse
  | memory (op : MemoryOp) : Takes c (.memory op) op.type.params.reverse op.type.results.reverse
  | table {op : TableOp} {type : FuncType} (found : c.tableOpType op = .ok type) :
    Takes c (.table op) type.params.reverse type.results.reverse
  | refNull (t : ValType) : Takes c (.refNull t) [] [t]
  | refIsNull (t : ValType) : Takes c .refIsNull [t] [.i32]
  | refFunc (f : Nat) : Takes c (.refFunc f) [] [.funcref]

variable {c : Context} {o : Op} {ts us : List ValType} {s : Validation.Operands}

theorem takes_of_select (checks : checkOp c (.select none) (known ts) = .ok s) :
    ∃ t us, ts = [.i32, t, t] ++ us ∧ s = known (t :: us) := by
  simp only [checkOp, bind_eq_ok, Prod.exists, pop_known] at checks
  obtain ⟨_, ⟨us, rfl, rfl⟩, _, _, pops, checks⟩ := checks
  obtain ⟨t, us, rfl, rfl, rfl⟩ := popAny_known.mp pops
  obtain ⟨_, _, pops, selects⟩ := checks
  obtain ⟨u, us, rfl, rfl, rfl⟩ := popAny_known.mp pops
  obtain ⟨_, agrees, same⟩ := selects
  cases same
  simp only [Validation.selected] at agrees
  split at agrees <;> cases agrees
  rename_i same
  obtain rfl : t = u := by simpa using (not_or.mp same).2
  exact ⟨t, us, rfl, rfl⟩

theorem takes_of_replace {params results : List ValType}
    (rule : Takes c o params.reverse results.reverse)
    (checks : (known ts).replace params results = .ok s) :
    ∃ takes gives us, Takes c o takes gives ∧ ts = takes ++ us ∧ s = known (gives ++ us) := by
  obtain ⟨us, rfl, rfl⟩ := replace_known.mp checks
  exact ⟨_, _, us, rule, rfl, rfl⟩

theorem takes_of_checkOp (checks : checkOp c o (known ts) = .ok s) :
    ∃ takes gives us, Takes c o takes gives ∧ ts = takes ++ us ∧ s = known (gives ++ us) := by
  cases o with
  | nop =>
    cases checks
    exact ⟨[], [], ts, .nop, rfl, rfl⟩
  | drop =>
    simp only [checkOp, bind_eq_ok, Prod.exists, popAny_known] at checks
    obtain ⟨_, _, ⟨t, us, rfl, rfl, rfl⟩, same⟩ := checks
    cases same
    exact ⟨[t], [], us, .drop t, rfl, rfl⟩
  | select type =>
    cases type with
    | none =>
      obtain ⟨t, us, rfl, rfl⟩ := takes_of_select checks
      exact ⟨_, [t], us, .select none t, rfl, rfl⟩
    | some t =>
      obtain ⟨_, -, checks⟩ := bind_eq_ok.mp checks
      exact takes_of_replace (.select (some t) t) checks
  | const t bits =>
    cases checks
    exact ⟨[], [t], ts, .const t bits, rfl, rfl⟩
  | unary op => exact takes_of_replace (.unary op) checks
  | binary op => exact takes_of_replace (.binary op) checks
  | vector op =>
    simp only [checkOp] at checks
    split at checks
    · exact takes_of_replace (.vector op) checks
    · cases checks
  | var op =>
    obtain ⟨type, found, checks⟩ := bind_eq_ok.mp checks
    exact takes_of_replace (.var found) checks
  | memory op =>
    obtain ⟨_, -, checks⟩ := bind_eq_ok.mp checks
    exact takes_of_replace (.memory op) checks
  | table op =>
    obtain ⟨type, found, checks⟩ := bind_eq_ok.mp checks
    exact takes_of_replace (.table found) checks
  | refNull t =>
    obtain ⟨_, -, same⟩ := bind_eq_ok.mp checks
    cases same
    exact ⟨[], [t], ts, .refNull t, rfl, rfl⟩
  | refIsNull =>
    simp only [checkOp, bind_eq_ok, Prod.exists, popAny_known] at checks
    obtain ⟨_, _, ⟨t, us, rfl, rfl, rfl⟩, checks⟩ := checks
    dsimp only at checks
    split at checks <;> cases checks
    exact ⟨[t], [.i32], us, .refIsNull t, rfl, rfl⟩
  | refFunc f =>
    obtain ⟨_, -, checks⟩ := bind_eq_ok.mp checks
    split at checks <;> cases checks
    exact ⟨[], [.funcref], ts, .refFunc f, rfl, rfl⟩

theorem ValType.holds_of_isReference {t : ValType} (reference : t.isReference = true) (v : Slot) :
    t.Holds v := by
  cases t <;> trivial

theorem ValType.holds_setIfInBounds {t : ValType} {slots : Array Slot} {i j : Nat} {v : Slot}
    (kept : t.Holds (slots.getD j 0)) (holds : i = j → t.Holds v) :
    t.Holds ((slots.setIfInBounds i v).getD j 0) := by
  rw [Array.getD_eq_getD_getElem?, Array.getElem?_setIfInBounds]
  split
  · rename_i same
    split
    · exact holds same
    · exact t.holds_zero
  · rwa [← Array.getD_eq_getD_getElem?]

theorem holds_growFailed : ValType.i32.Holds growFailed :=
  (IntWidth.holds_iff (w := .w32)).mpr (by decide)

theorem Memory.readNat_lt (m : Memory) (a count : Nat) : m.readNat a count < 256 ^ count := by
  induction count generalizing a with
  | zero => exact Nat.one_pos
  | succ count ih =>
    have byte := (m.get a).toNat_lt
    have rest := ih (a + 1)
    rw [pow_succ]
    simp only [readNat]
    omega

/-- Globals hold what their types allow, and the sizes of memories and tables are numbers for the
guest, however large they grow. -/
structure Store.Typed (globals : Array GlobalType) (s : Store) : Prop where
  globals : ∀ (i : Nat) (g : GlobalType), globals[i]? = some g → g.value.Holds (s.global i)
  memories : ∀ i, ValType.i32.Holds (s.memory i).pages ∧ ValType.i32.Holds (s.memory i).maxPages
  tables : ∀ i, ValType.i32.Holds (s.table i).size ∧ ValType.i32.Holds (s.table i).maxSize

namespace Store

variable {globals : Array GlobalType} {s s' : Store} {i : Nat}

theorem Typed.setGlobal {g : GlobalType} {v : Slot} (typed : s.Typed globals)
    (found : globals[i]? = some g) (holds : g.value.Holds v) : (s.setGlobal i v).Typed globals := by
  refine ⟨fun j g' found' => ?_, typed.memories, typed.tables⟩
  refine ValType.holds_setIfInBounds (typed.globals j g' found') fun same => ?_
  subst same
  cases found.symm.trans found'
  exact holds

theorem Typed.grows (typed : s.Typed globals) (grows : s.Grows s')
    (globals' : s'.globals = s.globals) (tables' : s'.tables = s.tables) : s'.Typed globals := by
  refine ⟨fun j g found => ?_, fun j => ?_, fun j => ?_⟩
  · rw [global, globals']
    exact typed.globals j g found
  · obtain ⟨pages, bound⟩ := typed.memories j
    have grows := grows.each j
    refine ⟨?_, by rwa [grows.maxPages]⟩
    exact Nat.lt_of_le_of_lt grows.most (max_lt pages bound)
  · rw [table, tables']
    exact typed.tables j

theorem Typed.withFuel (typed : s.Typed globals) (told : Nat) :
    (s.withFuel told).Typed globals :=
  ⟨typed.globals, typed.memories, typed.tables⟩

theorem Typed.modifyMemory {f : Memory → Memory} (typed : s.Typed globals)
    (grows : (s.memory i).Grows (f (s.memory i))) : (s.modifyMemory i f).Typed globals :=
  typed.grows (grows_modifyMemory grows) rfl rfl

theorem table_modifyTable (s : Store) (i k : Nat) (f : Table → Table) :
    (s.modifyTable i f).table k =
      if k = i ∧ i < s.tables.size then f (s.table i) else s.table k := by
  simp only [table, modifyTable, Array.getD_eq_getD_getElem?, Array.getElem?_modify]
  by_cases same : i = k
  · subst same
    by_cases inside : i < s.tables.size <;> simp [inside]
  · simp [same, Ne.symm same]

theorem Typed.modifyTable {f : Table → Table} (typed : s.Typed globals)
    (fits : ValType.i32.Holds (f (s.table i)).size ∧ ValType.i32.Holds (f (s.table i)).maxSize) :
    (s.modifyTable i f).Typed globals := by
  refine ⟨typed.globals, typed.memories, fun k => ?_⟩
  rw [table_modifyTable]
  split
  · exact fits
  · exact typed.tables k

theorem size_write (t : Table) (i : Nat) (entries : List Slot) :
    (t.write i entries).size = t.size ∧ (t.write i entries).maxSize = t.maxSize := by
  unfold Table.write
  split <;> exact ⟨rfl, rfl⟩

theorem Typed.writeTable {entries : List Slot} {place : Nat} (typed : s.Typed globals) :
    (s.modifyTable i fun t => t.write place entries).Typed globals := by
  refine typed.modifyTable ?_
  obtain ⟨size, bound⟩ := size_write (s.table i) place entries
  rw [size, bound]
  exact typed.tables i

theorem size_grow (t : Table) (delta : Nat) (entry : Slot) :
    (t.grow delta entry).size = t.size + delta ∧ (t.grow delta entry).maxSize = t.maxSize := by
  unfold Table.grow
  dsimp only
  split
  · exact ⟨rfl, rfl⟩
  · exact size_write _ _ _

theorem Typed.growTable {delta : Nat} {entry : Slot} (typed : s.Typed globals)
    (allowed : (s.table i).mayGrow delta = true) :
    (s.modifyTable i fun t => t.grow delta entry).Typed globals := by
  refine typed.modifyTable ?_
  obtain ⟨size, bound⟩ := size_grow (s.table i) delta entry
  rw [size, bound]
  refine ⟨?_, (typed.tables i).2⟩
  rcases of_decide_eq_true allowed with still | room
  · rw [still]
    exact (typed.tables i).1
  · exact Nat.lt_of_le_of_lt room (typed.tables i).2

end Store

abbrev Fits : List ValType → List Slot → Prop :=
  List.Forall₂ ValType.Holds

structure Config.Typed (c : Context) (types : List ValType) (x : Config) : Prop where
  stack : Fits types x.stack
  locals : ∀ (i : Nat) (t : ValType), c.locals[i]? = some t → t.Holds (x.locals.getD i 0)
  store : x.store.Typed c.globals

namespace Config.Typed

variable {x : Config} {takes gives : List ValType}

theorem with_stack {stack : List Slot} (typed : x.Typed c ts) (fits : Fits us stack) :
    Config.Typed c us { x with stack } :=
  ⟨fits, typed.locals, typed.store⟩

theorem with_store {store : Store} {stack : List Slot} (typed : x.Typed c ts)
    (fits : Fits us stack) (stored : store.Typed c.globals) :
    Config.Typed c us { x with store, stack } :=
  ⟨fits, typed.locals, stored⟩

theorem with_local {i : Nat} {t : ValType} {v : Slot} {stack : List Slot} (typed : x.Typed c ts)
    (found : c.locals[i]? = some t) (holds : t.Holds v) (fits : Fits us stack) :
    Config.Typed c us { x with locals := x.locals.setIfInBounds i v, stack } := by
  refine ⟨fits, fun j t' found' => ?_, typed.store⟩
  refine ValType.holds_setIfInBounds (typed.locals j t' found') fun same => ?_
  subst same
  cases found.symm.trans found'
  exact holds

end Config.Typed

section Pops

variable {x : Config} {t u v : ValType} {next : Config → Prop} {stop : Stop → Store → Prop}

theorem Config.Typed.pop {go : Slot → List Slot → Exit} (typed : x.Typed c (t :: us))
    (goes : ∀ a s, t.Holds a → Fits us s → (go a s).All next stop) :
    (x.pop go).All next stop := by
  obtain ⟨store, locals, stack, spent⟩ := x
  obtain _ | ⟨top, rest⟩ := typed.stack
  exact goes _ _ top rest

theorem Config.Typed.pop₂ {go : Slot → Slot → List Slot → Exit}
    (typed : x.Typed c (t :: u :: us))
    (goes : ∀ a b s, u.Holds a → t.Holds b → Fits us s → (go a b s).All next stop) :
    (x.pop₂ go).All next stop := by
  obtain ⟨store, locals, stack, spent⟩ := x
  obtain _ | ⟨top, _ | ⟨second, rest⟩⟩ := typed.stack
  exact goes _ _ _ second top rest

theorem Config.Typed.pop₃ {go : Slot → Slot → Slot → List Slot → Exit}
    (typed : x.Typed c (t :: u :: v :: us))
    (goes : ∀ a b d s, v.Holds a → u.Holds b → t.Holds d → Fits us s →
      (go a b d s).All next stop) : (x.pop₃ go).All next stop := by
  obtain ⟨store, locals, stack, spent⟩ := x
  obtain _ | ⟨top, _ | ⟨second, _ | ⟨third, rest⟩⟩⟩ := typed.stack
  exact goes _ _ _ _ third second top rest

theorem Config.Typed.popMany {count : Nat} {takes : List ValType}
    {go : List Slot → List Slot → Exit} (typed : x.Typed c (takes ++ us))
    (many : takes.length = count)
    (goes : ∀ args s, Fits us s → (go args s).All next stop) :
    (x.popMany count go).All next stop := by
  have length := typed.stack.length_eq
  rw [List.length_append, many] at length
  have rest : Fits us (x.stack.drop count) := by
    simpa [← many] using List.forall₂_drop takes.length typed.stack
  unfold Config.popMany
  rw [if_pos (by omega)]
  exact goes _ _ rest

end Pops

section Families

variable {x : Config}

theorem VarOp.typed {op : VarOp} {type : FuncType} (found : c.varOpType op = .ok type)
    (typed : x.Typed c (type.params.reverse ++ us)) :
    (op.run x).All (Config.Typed c (type.results.reverse ++ us)) fun _ _ => True := by
  cases op with
  | localGet i =>
    simp only [Context.varOpType, bind_eq_ok, find_eq_ok] at found
    obtain ⟨t, declared, same⟩ := found
    cases same
    exact typed.with_stack (.cons (typed.locals i t declared) typed.stack)
  | localSet i =>
    simp only [Context.varOpType, bind_eq_ok, find_eq_ok] at found
    obtain ⟨t, declared, same⟩ := found
    cases same
    exact typed.pop fun a s holds rest => typed.with_local declared holds rest
  | localTee i =>
    simp only [Context.varOpType, bind_eq_ok, find_eq_ok] at found
    obtain ⟨t, declared, same⟩ := found
    cases same
    exact typed.pop fun a s holds _ => typed.with_local declared holds typed.stack
  | globalGet i =>
    simp only [Context.varOpType, bind_eq_ok, find_eq_ok] at found
    obtain ⟨g, declared, same⟩ := found
    cases same
    exact typed.with_stack (.cons (typed.store.globals i g declared) typed.stack)
  | globalSet i =>
    simp only [Context.varOpType, bind_eq_ok, find_eq_ok] at found
    obtain ⟨g, declared, same⟩ := found
    split at same <;> cases same
    exact typed.pop fun a s holds rest =>
      typed.with_store rest (typed.store.setGlobal declared holds)

theorem MemoryOp.typed (op : MemoryOp) (sized : (Op.memory op).Sized)
    (typed : x.Typed c (op.type.params.reverse ++ us)) :
    (op.run x).All (Config.Typed c (op.type.results.reverse ++ us)) fun _ _ => True := by
  cases op with
  | load t bytes signed arg =>
    refine typed.pop fun a s _ rest => all_ite (fun _ => ?_) fun _ => trivial
    exact typed.with_stack (.cons (sized _ (Memory.readNat_lt _ _ _)) rest)
  | vectorLoad how arg =>
    refine typed.pop fun a s _ rest => all_ite (fun _ => ?_) fun _ => trivial
    exact typed.with_stack (.cons (how.holds_apply _) rest)
  | laneLoad w lane arg =>
    refine typed.pop₂ fun a b s _ _ rest => all_ite (fun _ => ?_) fun _ => trivial
    exact typed.with_stack (.cons (LaneWidth.holds_vector _) rest)
  | store | laneStore =>
    refine typed.pop₂ fun a b s _ _ rest => all_ite (fun _ => ?_) fun _ => trivial
    exact typed.with_store rest (typed.store.modifyMemory (Memory.grows_write _ _ _))
  | size m => exact typed.with_stack (.cons (typed.store.memories m).1 typed.stack)
  | grow m =>
    refine typed.pop fun delta s _ rest => all_ite (fun allowed => ?_) fun _ => ?_
    · exact typed.with_store (.cons (typed.store.memories m).1 rest)
        (typed.store.modifyMemory (Memory.grows_grow allowed))
    · exact typed.with_stack (.cons holds_growFailed rest)
  | fill | copy | init =>
    refine typed.pop₃ fun a b d s _ _ _ rest => all_ite (fun _ => ?_) fun _ => trivial
    exact typed.with_store rest (typed.store.modifyMemory (Memory.grows_write _ _ _))
  | drop data =>
    exact typed.with_store typed.stack
      ⟨typed.store.globals, typed.store.memories, typed.store.tables⟩

theorem TableOp.typed {op : TableOp} {type : FuncType} (found : c.tableOpType op = .ok type)
    (references : ∀ type ∈ c.tables, type.element.isReference = true)
    (typed : x.Typed c (type.params.reverse ++ us)) :
    (op.run x).All (Config.Typed c (type.results.reverse ++ us)) fun _ _ => True := by
  have writes {i place : Nat} {entries s : List Slot} (rest : Fits us s) :
      Config.Typed c us
        { x with store := x.store.modifyTable i fun t => t.write place entries, stack := s } :=
    typed.with_store rest typed.store.writeTable
  -- Writing entries leaves the size of a table alone; growing it is up to its bound.
  cases op with
  | get t =>
    simp only [Context.tableOpType, bind_eq_ok, find_eq_ok] at found
    obtain ⟨type, declared, same⟩ := found
    cases same
    have reference := references type (Array.mem_of_getElem? declared)
    refine typed.pop fun i s _ rest => all_ite (fun _ => ?_) fun _ => trivial
    exact typed.with_stack (.cons (ValType.holds_of_isReference reference _) rest)
  | set t =>
    simp only [Context.tableOpType, bind_eq_ok] at found
    obtain ⟨type, -, same⟩ := found
    cases same
    exact typed.pop₂ fun i v s _ _ rest => all_ite (fun _ => writes rest) fun _ => trivial
  | size t =>
    simp only [Context.tableOpType, bind_eq_ok] at found
    obtain ⟨_, -, same⟩ := found
    cases same
    exact typed.with_stack (.cons (typed.store.tables t).1 typed.stack)
  | grow t =>
    simp only [Context.tableOpType, bind_eq_ok] at found
    obtain ⟨type, -, same⟩ := found
    cases same
    refine typed.pop₂ fun entry delta s _ _ rest => all_ite (fun allowed => ?_) fun _ => ?_
    · exact typed.with_store (.cons (typed.store.tables t).1 rest) (typed.store.growTable allowed)
    · exact typed.with_stack (.cons holds_growFailed rest)
  | fill t =>
    simp only [Context.tableOpType, bind_eq_ok] at found
    obtain ⟨type, -, same⟩ := found
    cases same
    exact typed.pop₃ fun a b d s _ _ _ rest => all_ite (fun _ => writes rest) fun _ => trivial
  | copy | init =>
    simp only [Context.tableOpType, bind_eq_ok] at found
    obtain ⟨_, -, _, -, same⟩ := found
    split at same <;> cases same
    exact typed.pop₃ fun a b d s _ _ _ rest => all_ite (fun _ => writes rest) fun _ => trivial
  | drop elem =>
    simp only [Context.tableOpType, bind_eq_ok] at found
    obtain ⟨_, -, same⟩ := found
    cases same
    exact typed.with_store typed.stack
      ⟨typed.store.globals, typed.store.memories, typed.store.tables⟩

end Families

theorem Takes.typed {x : Config} {takes gives : List ValType} (rule : Takes c o takes gives)
    (sized : o.Sized) (references : ∀ type ∈ c.tables, type.element.isReference = true)
    (typed : x.Typed c (takes ++ us)) :
    (o.run x).All (Config.Typed c (gives ++ us)) fun _ _ => True := by
  cases rule with
  | nop => exact typed
  | drop t => exact typed.pop fun _ _ _ rest => typed.with_stack rest
  | select type t =>
    refine typed.pop₃ fun a b d s left right _ rest => typed.with_stack (.cons ?_ rest)
    split
    · exact right
    · exact left
  | const t bits => exact typed.with_stack (.cons sized typed.stack)
  | unary op =>
    refine typed.pop fun a s holds rest => ?_
    cases result : op.apply a with
    | error t => trivial
    | ok v => exact typed.with_stack (.cons (op.holds_apply holds result) rest)
  | binary op =>
    refine typed.pop₂ fun a b s left right rest => ?_
    cases result : op.apply a b with
    | error t => trivial
    | ok v => exact typed.with_stack (.cons (op.holds_apply left right result) rest)
  | vector op =>
    rw [run_vector]
    exact typed.popMany List.length_reverse fun args s rest =>
      typed.with_stack (.cons (op.holds_apply args) rest)
  | var found => exact VarOp.typed found typed
  | memory op => exact op.typed sized typed
  | table found => exact TableOp.typed found references typed
  | refNull t => exact typed.with_stack (.cons t.holds_zero typed.stack)
  | refIsNull t =>
    exact typed.pop fun _ _ _ rest => typed.with_stack (.cons (holds_ofBool _) rest)
  | refFunc f => exact typed.with_stack (.cons trivial typed.stack)

theorem typed_of_run {x : Config} (checks : checkOp c o (known ts) = .ok s) (sized : o.Sized)
    (references : ∀ type ∈ c.tables, type.element.isReference = true) (typed : x.Typed c ts) :
    ∃ us, s = known us ∧ (o.run x).All (Config.Typed c us) fun _ s => s.Typed c.globals := by
  obtain ⟨takes, gives, us, rule, rfl, rfl⟩ := takes_of_checkOp checks
  refine ⟨gives ++ us, rfl, ?_⟩
  have continues := rule.typed sized references typed
  have stops := stop_of_run o x
  cases run : o.run x with
  | next x' =>
    rw [run] at continues
    exact continues
  | stop reason s =>
    rw [run] at stops
    obtain ⟨rfl, -⟩ := stops
    exact typed.store

end ModuleHost.Wasm
