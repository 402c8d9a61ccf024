import ModuleHost.Proofs.GuestModule
import ModuleHost.Proofs.Instance.Memories
import ModuleHost.Proofs.Linking

namespace ModuleHost

namespace Wasm

open Validation (Context Valid)

variable {m : Module} {c : Context} {p : Program}

/-! ## Linked programs -/

theorem checked_of_resolve {wasi : Bool} {calls : List Wasi.Call} (valid : Valid m c)
    (sized : m.Sized) (links : Linking.resolve wasi m = .ok calls)
    (linked : p.hostCalls = calls.toArray) (same : p.module = m) : p.Checked c where
  types := by rw [valid.types, same]
  funcs f t found := Linking.funcType_of_resolve links linked same
    (Validation.funcType_of_resolveFuncs valid.funcs found)
  references type member := by
    rw [valid.tables, Module.tableTypes, Linking.importedTables_of_resolve links] at member
    exact (sized.tables type (by simpa using member)).reference
  host f call found := by
    rw [linked, List.getElem?_toArray] at found
    exact Linking.results_of_mem_calls
      (Linking.mem_calls_of_resolve links call (List.mem_of_getElem? found))
  bodies func member := by
    rw [same] at member
    exact ⟨valid.bodies func member, sized.bodies func member⟩

end Wasm

namespace Instance

open Wasm
open Validation (Context Valid checkConst checkConstOps)
open Validation.Operands

variable {m : Module} {c : Context} {p : Program} {s s' : Store}

/-! ## Constant expressions -/

theorem typed_of_runOps {e : ConstExpr} {imported : List GlobalType} {types : List ValType}
    {ops : Validation.Operands} {x : Config}
    (checks : checkConstOps c imported e (known types) = .ok ops) (sized : ∀ o ∈ e, o.Sized)
    (references : ∀ type ∈ c.tables, type.element.isReference = true) (typed : x.Typed c types) :
    (runOps e x).All (fun x => ∃ us, ops = known us ∧ x.Typed c us) fun _ _ => True := by
  induction e generalizing types x with
  | nil =>
    cases checks
    exact ⟨types, rfl, typed⟩
  | cons o e ih =>
    obtain ⟨here, there⟩ := List.forall_mem_cons.mp sized
    simp only [checkConstOps, bind_eq_ok] at checks
    obtain ⟨constant, -, checks⟩ := checks
    split at checks
    · obtain ⟨between, first, rest⟩ := bind_eq_ok.mp checks
      obtain ⟨us, rfl, runs⟩ := typed_of_run first here references typed
      simp only [runOps]
      split
      · rename_i next
        rw [next] at runs
        exact ih rest there runs
      · rename_i stops
        cases ran : o.run x with
        | next x' => exact absurd ran (stops x')
        | stop reason s => trivial
    · cases checks

theorem holds_evaluate {e : ConstExpr} {imported : List GlobalType} {t : ValType}
    (checks : checkConst c imported t e = .ok ()) (sized : ∀ o ∈ e, o.Sized)
    (references : ∀ type ∈ c.tables, type.element.isReference = true)
    (typed : s.Typed c.globals) : t.Holds (evaluate s e) := by
  obtain ⟨ops, follows, ends⟩ := bind_eq_ok.mp checks
  have follows : checkConstOps c imported e (known []) = .ok ops := follows
  have start : Config.Typed c [] ⟨s, #[], [], 0⟩ := ⟨.nil, fun i t _ => t.holds_zero, typed⟩
  have runs := typed_of_runOps follows sized references start
  unfold evaluate
  split
  · rename_i ran
    rw [ran] at runs
    obtain ⟨us, rfl, left⟩ := runs
    obtain rfl := finish_known.mp ends
    exact Fits.holds_headD left.stack
  · exact t.holds_zero

/-! ## New stores -/

theorem typed_of_makeGlobals {done : List GlobalType} {globals : List Global}
    (all : c.globals.toList = done ++ globals.map Global.type) (size : s.globals.size = done.length)
    (checks : ∀ g ∈ globals, checkConst c [] g.type.value g.init = .ok ())
    (sized : ∀ g ∈ globals, ∀ o ∈ g.init, o.Sized)
    (references : ∀ type ∈ c.tables, type.element.isReference = true)
    (typed : s.Typed c.globals) : (makeGlobals s globals).Typed c.globals := by
  induction globals generalizing done s with
  | nil => exact typed
  | cons g globals ih =>
    obtain ⟨here, there⟩ := List.forall_mem_cons.mp checks
    obtain ⟨small, others⟩ := List.forall_mem_cons.mp sized
    have holds := holds_evaluate here small references typed
    have all' : c.globals.toList = (done ++ [g.type]) ++ globals.map Global.type := by
      simpa using all
    refine ih (s := { s with globals := s.globals.push (evaluate s g.init) }) all' ?_ there others
      ⟨fun i type found => ?_, typed.memories, typed.tables⟩
    · simpa using size
    · have kept := typed.globals i type found
      simp only [Store.global, Array.getD_eq_getD_getElem?, Array.getElem?_push] at kept ⊢
      split
      · rename_i last
        rw [last, size, ← Array.getElem?_toList, all, List.getElem?_append_right (le_refl _),
          Nat.sub_self] at found
        cases found
        exact holds
      · exact kept

theorem holds_of_le_maxPages {pages : Nat} (few : pages ≤ Validation.maxPages) :
    ValType.i32.Holds pages := by
  refine (IntWidth.holds_iff (w := .w32)).mpr (Nat.lt_of_le_of_lt few ?_)
  decide

theorem holds_of_checkMemory {engine : Settings.Engine} {limits : Settings.Limits} {l : Limits}
    (checks : Validation.checkMemory l = .ok ()) :
    ValType.i32.Holds l.min ∧ ValType.i32.Holds (maxPages engine limits l) := by
  obtain ⟨_, -, checks⟩ := bind_eq_ok.mp checks
  split at checks
  · cases checks
  · rename_i within
    obtain ⟨least, most⟩ := not_or.mp within
    have declared : l.max.getD 65536 ≤ Validation.maxPages := by
      cases max : l.max with
      | none => exact le_refl _
      | some most' =>
        rw [max] at most
        exact Nat.le_of_not_lt fun large => most (decide_eq_true large)
    refine ⟨holds_of_le_maxPages (Nat.le_of_not_lt least), holds_of_le_maxPages ?_⟩
    unfold maxPages
    dsimp only
    split
    · exact (min_le_left _ _).trans ((min_le_left _ _).trans declared)
    · exact (min_le_left _ _).trans declared

theorem holds_of_checkTable {engine : Settings.Engine} {t : TableType}
    (checks : Validation.checkTable t = .ok ()) (sized : t.Sized) :
    ValType.i32.Holds t.limits.min ∧ ValType.i32.Holds (maxEntries engine t) := by
  simp only [Validation.checkTable, bind_eq_ok] at checks
  obtain ⟨_, -, _, -, checks⟩ := checks
  split at checks
  · cases checks
  · rename_i small
    have least : ValType.i32.Holds t.limits.min :=
      Nat.lt_of_le_of_lt (Nat.le_of_not_lt small) (by decide)
    have most : ValType.i32.Holds (t.limits.max.getD (UInt32.size - 1)) := by
      cases max : t.limits.max with
      | none => exact Nat.sub_lt (by decide) Nat.one_pos
      | some most => exact sized.max most max
    refine ⟨least, ?_⟩
    unfold maxEntries
    dsimp only
    split
    · exact Nat.lt_of_le_of_lt (min_le_left _ _) most
    · exact most

theorem typed_of_copyElems {globals : Array GlobalType} {es : List Elem} (typed : s.Typed globals)
    (copied : copyElems s es = .ok s') : s'.Typed globals := by
  induction es generalizing s with
  | nil =>
    cases copied
    exact typed
  | cons e es ih =>
    simp only [copyElems] at copied
    split at copied
    · split at copied
      · exact ih typed.writeTable copied
      · cases copied
    · exact ih typed copied

theorem typed_of_copyDatas {globals : Array GlobalType} {ds : List Data} (typed : s.Typed globals)
    (copied : copyDatas s ds = .ok s') : s'.Typed globals := by
  induction ds generalizing s with
  | nil =>
    cases copied
    exact typed
  | cons d ds ih =>
    simp only [copyDatas] at copied
    split at copied
    · split at copied
      · exact ih (typed.modifyMemory (Memory.grows_write ..)) copied
      · cases copied
    · exact ih typed copied

theorem typed_of_runStart (checked : p.Checked c) (params : ∀ f ∈ p.module.start,
    (p.funcType f).params = []) (typed : s.Typed c.globals) (starts : runStart p s = .ok s') :
    s'.Typed c.globals := by
  unfold runStart at starts
  split at starts
  · cases starts
    exact typed
  · rename_i f named
    have noArgs : Fits (p.funcType f).params [] := params f named ▸ .nil
    have called := callLaws.sound checked noArgs typed
    split at starts
    · rename_i returned
      cases starts
      rwa [returned] at called
    · cases starts

/-! ## Instances -/

def Typed (i : Instance) : Prop :=
  ∃ c, i.program.Checked c ∧ i.store.Typed c.globals

theorem typed_of_makeStore (settings : Settings.Engine) (limits : Settings.Limits)
    (valid : Valid m c) (sized : m.Sized) (imported : m.importedGlobals = [])
    (references : ∀ type ∈ c.tables, type.element.isReference = true) :
    (makeStore settings m (m.memories.toList.map fun l =>
      Memory.ofPages l.min (maxPages settings limits l))).Typed c.globals := by
  have all : c.globals.toList = [] ++ m.globals.toList.map Global.type := by
    rw [valid.globals, Module.globalTypes, imported]
    simp
  have made := typed_of_makeGlobals all (s := { Store.empty with
    memories := (m.memories.toList.map fun l =>
      Memory.ofPages l.min (maxPages settings limits l)).toArray
    tables := m.tables.map (makeTable settings) }) rfl
    (fun g member => imported ▸ valid.values g (Array.mem_toList_iff.mp member))
    (fun g member => sized.globals g (Array.mem_toList_iff.mp member)) references
    ⟨fun i g _ => g.value.holds_zero, fun i => ?_, fun i => ?_⟩
  · exact ⟨made.globals, made.memories, made.tables⟩
  · rw [Store.memory, Array.getD_eq_getD_getElem?, List.getElem?_toArray, List.getElem?_map]
    cases declared : m.memories.toList[i]? with
    | none => exact ⟨ValType.i32.holds_zero, ValType.i32.holds_zero⟩
    | some l =>
      have member := Array.mem_toList_iff.mp (List.mem_of_getElem? declared)
      exact holds_of_checkMemory (valid.memories l member)
  · rw [Store.table, Array.getD_eq_getD_getElem?, Array.getElem?_map]
    cases declared : m.tables[i]? with
    | none => exact ⟨ValType.i32.holds_zero, ValType.i32.holds_zero⟩
    | some t =>
      have member := Array.mem_of_getElem? declared
      exact holds_of_checkTable (valid.sizes t member) (sized.tables t member)

variable {engine : Engine} {limits : Settings.Limits} {pool pool' : Pool} {g : GuestModule}
  {fuel : Option UInt64} {i : Instance}

theorem typed_of_create (valid : Validation.check g.module = .ok ()) (sized : g.module.Sized)
    (created : create engine limits pool g fuel = .ok (i, pool')) : i.Typed := by
  obtain ⟨c, valid⟩ := Validation.valid_of_check valid
  obtain ⟨ready, store, stands, starts, rfl, -⟩ := create_eq_ok.mp created
  obtain ⟨memories, links, -, made, copied⟩ := getReady_eq_ok.mp stands
  obtain ⟨s, elems, datas⟩ := bind_eq_ok.mp copied
  obtain ⟨-, rfl⟩ := makeMemories_eq_ok.mp made
  have checked : (linked engine limits g.module fuel ready.calls).Checked c :=
    checked_of_resolve valid sized links rfl rfl
  have made := typed_of_makeStore engine.settings limits valid sized
    (Linking.importedGlobals_of_resolve links) checked.references
  refine ⟨c, checked, typed_of_runStart checked (fun f named => ?_)
    (typed_of_copyDatas (typed_of_copyElems made elems) datas) starts⟩
  have start := valid.start
  rw [show g.module.start = some f from named] at start
  obtain ⟨t, found, checks⟩ := bind_eq_ok.mp start
  split at checks
  · rw [checked.funcs f t (Validation.find_eq_ok.mp found), ‹t = _›]
  · cases checks

/-! ## Calls -/

theorem holds_iff_of_ofType {t : ValType} {kind : Value.Kind} {n : Nat}
    (same : Value.Kind.ofType t = some kind) : t.Holds n ↔ n < 256 ^ kind.size := by
  cases t <;> cases same <;> exact Iff.rfl

theorem fits_args {types : List ValType} {args : List Value}
    (accepts : types.map Value.Kind.ofType = (args.map Value.kind).map some) :
    Fits types (args.map Value.bits) := by
  induction types generalizing args with
  | nil =>
    cases args with
    | nil => exact .nil
    | cons => cases accepts
  | cons t types ih =>
    cases args with
    | nil => cases accepts
    | cons v args =>
      obtain ⟨same, others⟩ := List.cons.inj accepts
      exact .cons ((holds_iff_of_ofType same).mpr v.bits_lt) (ih others)

theorem map_bits_zipWith {types : List ValType} {kinds : List Value.Kind} {operands : List Slot}
    (typed : types.map Value.Kind.ofType = kinds.map some) (fits : Fits types operands) :
    (List.zipWith Value.ofBits kinds operands).map Value.bits = operands := by
  induction fits generalizing kinds with
  | nil =>
    cases kinds with
    | nil => rfl
    | cons => cases typed
  | @cons t v types operands holds fits ih =>
    cases kinds with
    | nil => cases typed
    | cons kind kinds =>
      obtain ⟨same, others⟩ := List.cons.inj typed
      rw [List.zipWith_cons_cons, List.map_cons, ih others,
        Value.bits_ofBits ((holds_iff_of_ofType same).mp holds)]

theorem typed_of_enter (typed : i.Typed) {f : Nat} {args : List Slot}
    (fits : Fits (i.program.funcType f).params args) :
    (i.enter f args).All (fun store => Typed { i with store }) fun _ store =>
      Typed { i with store } := by
  obtain ⟨c, checked, stored⟩ := typed
  unfold enter
  split
  · exact ⟨c, checked, stored⟩
  · have called := callLaws.sound checked fits stored
    cases ran : i.program.call f args i.store with
    | done results store =>
      rw [ran] at called
      exact ⟨c, checked, called⟩
    | stop reason store =>
      rw [ran] at called
      exact ⟨c, checked, called⟩

variable {interface : Option String} {name : String} {args results : List Value}

theorem fits_of_resolve {f : Nat} {s : Signature}
    (resolves : i.resolve (qualify interface name) = .ok (f, s))
    (accepts : args.map Value.kind = s.params) :
    Fits (i.program.funcType f).params (args.map Value.bits) := by
  have signed := Signature.ofFuncType_eq_ok.mp (resolve_eq_ok.mp resolves).2
  exact fits_args (accepts ▸ signed.1)

theorem Typed.call (typed : i.Typed) : (i.call interface name args).2.Typed := by
  refine after_call typed ?_
  intro f s resolves accepts
  exact typed_of_enter typed (fits_of_resolve resolves accepts)

theorem Typed.step (typed : i.Typed) (op : Op) : (i.step op).2.Typed := by
  cases op with
  | call interface name args => exact typed.call
  | writeBytes offset bytes =>
    simp only [Instance.step]
    cases writes : i.writeBytes offset bytes with
    | error e => exact typed
    | ok i' =>
      obtain ⟨m, -, rfl⟩ := map_eq_ok.mp writes
      obtain ⟨c, checked, stored⟩ := typed
      exact ⟨c, checked, stored.modifyMemory (Memory.grows_write ..)⟩
  | signature | readBytes | fuelLeft | fingerprint => exact typed

/-- The function that a call runs leaves at least its declared results, and the values that the call
returns are those operands bit for bit, the last on top. -/
structure Leaves (i : Instance) (name : String) (args results : List Value) (f : Nat)
    (operands : List Slot) (store : Store) : Prop where
  exported : i.exports.lookup name = some (.func f)
  runs : i.program.callAt i.program.maxDepth f (args.map Value.bits).reverse i.store =
    .done operands store
  bits : operands.take results.length = (results.map Value.bits).reverse

theorem Typed.leaves (typed : i.Typed) (answers : (i.call interface name args).1 = .ok results) :
    ∃ f operands store, i.Leaves (qualify interface name) args results f operands store := by
  obtain ⟨f, s, slots, store, resolves, accepts, returns, rfl, -⟩ := returned_of_call answers
  obtain ⟨c, checked, stored⟩ := typed
  have kinds := (Signature.ofFuncType_eq_ok.mp (resolve_eq_ok.mp resolves).2).2
  unfold enter at returns
  split at returns
  · cases returns
  · obtain ⟨fits, operands, ran, top⟩ :=
      callLaws.returns checked (fits_of_resolve resolves accepts) stored returns
    have bits := map_bits_zipWith kinds fits
    refine ⟨f, operands, _, (resolve_eq_ok.mp resolves).1, ran, ?_⟩
    have count := congrArg List.length bits
    rw [List.length_map] at count
    rw [bits, count, top]

end Instance

end ModuleHost
