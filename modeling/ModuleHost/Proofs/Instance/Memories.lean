import ModuleHost.Proofs.Instance.Fuel
import ModuleHost.Proofs.Registry.Requests

namespace ModuleHost.Instance

open Wasm

variable {engine : Engine} {settings : Settings.Engine} {limits : Settings.Limits}
  {pool pool' : Pool} {m : GuestModule} {fuel : Option UInt64} {i : Instance}

theorem maxPages_le (settings : Settings.Engine) (limits : Settings.Limits) (l : Limits) :
    maxPages settings limits l * pageSize ≤ limits.memoryBytes := by
  have pages : maxPages settings limits l ≤ limits.memoryBytes / pageSize := by
    unfold maxPages
    dsimp only
    split
    · exact (min_le_left _ _).trans (min_le_right _ _)
    · exact min_le_right _ _
  exact (Nat.mul_le_mul_right _ pages).trans (Nat.div_mul_le_self _ _)

theorem makeMemories_eq_ok {ls : List Limits} {memories : List Memory} :
    makeMemories settings limits ls = .ok memories ↔
      (∀ l ∈ ls, l.min * pageSize ≤ limits.memoryBytes) ∧
        memories = ls.map fun l => Memory.ofPages l.min (maxPages settings limits l) := by
  induction ls generalizing memories with
  | nil => simp [makeMemories, eq_comm]
  | cons l ls ih =>
    by_cases fits : l.min * pageSize ≤ limits.memoryBytes
    · simp only [makeMemories, if_pos fits, map_eq_ok, ih, List.forall_mem_cons, List.map_cons]
      constructor
      · rintro ⟨_, ⟨others, rfl⟩, rfl⟩
        exact ⟨⟨fits, others⟩, rfl⟩
      · rintro ⟨⟨-, others⟩, rfl⟩
        exact ⟨_, ⟨others, rfl⟩, rfl⟩
    · simp [makeMemories, fits]

theorem memories_makeGlobals (s : Store) (globals : List Global) :
    (makeGlobals s globals).memories = s.memories := by
  induction globals generalizing s with
  | nil => rfl
  | cons g globals ih => exact ih { s with globals := s.globals.push (evaluate s g.init) }

theorem memories_makeStore (settings : Settings.Engine) (m : Module) (memories : List Memory) :
    (makeStore settings m memories).memories = memories.toArray :=
  memories_makeGlobals _ _

theorem memories_copyElems {s s' : Store} {es : List Elem} (copied : copyElems s es = .ok s') :
    s'.memories = s.memories := by
  induction es generalizing s with
  | nil =>
    cases copied
    rfl
  | cons e es ih =>
    simp only [copyElems] at copied
    split at copied
    · split at copied
      · have kept := ih copied
        exact kept
      · cases copied
    · exact ih copied

theorem grows_of_copyDatas {s s' : Store} {ds : List Data} (copied : copyDatas s ds = .ok s') :
    s.Grows s' := by
  induction ds generalizing s with
  | nil =>
    cases copied
    exact .of_memories rfl
  | cons d ds ih =>
    simp only [copyDatas] at copied
    split at copied
    · split at copied
      · exact (Store.grows_modifyMemory (Memory.grows_write ..)).trans (ih copied)
      · cases copied
    · exact ih copied

theorem grows_of_runStart {p : Program} {s s' : Store} (starts : runStart p s = .ok s') :
    s.Grows s' := by
  unfold runStart at starts
  split at starts
  · cases starts
    exact .of_memories rfl
  · rename_i f _
    have grows := callLaws.grows p f [] s
    split at starts
    · rename_i called
      cases starts
      rw [called] at grows
      exact grows
    · cases starts

theorem within_of_create (created : create engine limits pool m fuel = .ok (i, pool')) :
    i.store.Within limits.memoryBytes ∧ i.store.memories.size = m.module.memories.size := by
  obtain ⟨ready, store, stands, starts, rfl, -⟩ := create_eq_ok.mp created
  obtain ⟨memories, -, -, made, copied⟩ := getReady_eq_ok.mp stands
  obtain ⟨s, elems, datas⟩ := bind_eq_ok.mp copied
  obtain ⟨fits, rfl⟩ := makeMemories_eq_ok.mp made
  have grows := (grows_of_copyDatas datas).trans (grows_of_runStart starts)
  have start := (memories_copyElems elems).trans (memories_makeStore ..)
  have within : s.Within limits.memoryBytes := by
    intro k
    rw [Store.memory, start, Array.getD_eq_getD_getElem?, List.getElem?_toArray, List.getElem?_map]
    cases declared : m.module.memories.toList[k]? with
    | none => simp [Memory.ofPages, Memory.size]
    | some l => exact ⟨fits l (List.mem_of_getElem? declared), maxPages_le ..⟩
  exact ⟨within.grows grows, by rw [grows.count, start]; simp⟩

theorem create_of_large (large : ∃ l ∈ m.module.memories, limits.memoryBytes < l.min * pageSize) :
    ∃ text, create engine limits pool m fuel = .error (.instantiation text) := by
  cases created : create engine limits pool m fuel with
  | ok result =>
    obtain ⟨ready, store, stands, -⟩ := create_eq_ok.mp created
    obtain ⟨memories, -, -, made, -⟩ := getReady_eq_ok.mp stands
    obtain ⟨l, declared, large⟩ := large
    have fits := (makeMemories_eq_ok.mp made).1 l (Array.mem_toList_iff.mpr declared)
    exact absurd large (Nat.not_lt_of_le fits)
  | error e =>
    obtain ⟨text, rfl⟩ := instantiation_of_create created
    exact ⟨text, rfl⟩

theorem grows_enter (i : Instance) (f : Nat) (args : List Slot) :
    (i.enter f args).All i.store.Grows fun _ s => i.store.Grows s := by
  unfold enter
  split
  · exact .of_memories rfl
  · exact callLaws.grows i.program f args i.store

theorem grows_call (i : Instance) (interface : Option String) (name : String)
    (args : List Value) : i.store.Grows (i.call interface name args).2.store := by
  refine after_call (P := fun j => i.store.Grows j.store) (.of_memories rfl) ?_
  intro f s _ _
  exact i.grows_enter f (args.map Value.bits)

theorem grows_step (i : Instance) (op : Op) : i.store.Grows (i.step op).2.store := by
  have kept : i.store.Grows i.store := .of_memories rfl
  cases op with
  | call interface name args => exact i.grows_call interface name args
  | writeBytes offset bytes =>
    simp only [step]
    cases writes : i.writeBytes offset bytes with
    | error e => exact kept
    | ok i' =>
      obtain ⟨m, -, rfl⟩ := map_eq_ok.mp writes
      exact Store.grows_modifyMemory (Memory.grows_write ..)
  | signature | readBytes | fuelLeft | fingerprint => exact kept

end ModuleHost.Instance
