import ModuleHost.Proofs.Except
import ModuleHost.Proofs.Wasm.Points

namespace ModuleHost

namespace Wasm

/-- A memory has become another one by writes and by growth within its bound. -/
structure Memory.Grows (m m' : Memory) : Prop where
  maxPages : m'.maxPages = m.maxPages
  least : m.pages ≤ m'.pages
  most : m'.pages ≤ max m.pages m.maxPages

namespace Memory

variable {m m' m'' : Memory}

theorem Grows.refl (m : Memory) : m.Grows m :=
  ⟨rfl, le_refl _, le_max_left _ _⟩

theorem Grows.trans (grows : m.Grows m') (grows' : m'.Grows m'') : m.Grows m'' := by
  have most := grows'.most
  rw [grows.maxPages] at most
  refine ⟨grows'.maxPages.trans grows.maxPages, grows.least.trans grows'.least, ?_⟩
  exact most.trans (max_le grows.most (le_max_right _ _))

theorem grows_write (m : Memory) (a : Nat) (bytes : List UInt8) : m.Grows (m.write a bytes) := by
  unfold write
  split
  · exact .refl m
  · exact ⟨rfl, le_refl _, le_max_left _ _⟩

theorem grows_grow {delta : Nat} (allowed : m.mayGrow delta = true) : m.Grows (m.grow delta) := by
  refine ⟨rfl, Nat.le_add_right _ _, ?_⟩
  show m.pages + delta ≤ max m.pages m.maxPages
  rcases of_decide_eq_true allowed with still | room
  · simp [still]
  · exact room.trans (le_max_right _ _)

end Memory

structure Store.Grows (s s' : Store) : Prop where
  count : s'.memories.size = s.memories.size
  each : ∀ k, (s.memory k).Grows (s'.memory k)

namespace Store

variable {s s' s'' : Store}

theorem Grows.of_memories (same : s'.memories = s.memories) : s.Grows s' := by
  refine ⟨by rw [same], fun k => ?_⟩
  rw [memory, memory, same]
  exact .refl _

theorem Grows.trans (grows : s.Grows s') (grows' : s'.Grows s'') : s.Grows s'' :=
  ⟨grows'.count.trans grows.count, fun k => (grows.each k).trans (grows'.each k)⟩

theorem memory_modifyMemory (s : Store) (i k : Nat) (f : Memory → Memory) :
    (s.modifyMemory i f).memory k =
      if k = i ∧ i < s.memories.size then f (s.memory i) else s.memory k := by
  simp only [memory, modifyMemory, Array.getD_eq_getD_getElem?, Array.getElem?_modify]
  by_cases same : i = k
  · subst same
    by_cases inside : i < s.memories.size <;> simp [inside]
  · simp [same, Ne.symm same]

theorem grows_modifyMemory {i : Nat} {f : Memory → Memory}
    (grows : (s.memory i).Grows (f (s.memory i))) : s.Grows (s.modifyMemory i f) := by
  refine ⟨Array.size_modify, fun k => ?_⟩
  rw [memory_modifyMemory]
  split
  · rename_i here
    rwa [here.1]
  · exact .refl _

end Store

theorem VarOp.grows_of_run (o : VarOp) (c : Config) :
    (o.run c).All (fun c' => c.store.Grows c'.store) fun _ s => c.store.Grows s := by
  have kept : c.store.Grows c.store := .of_memories rfl
  cases o with
  | localGet | globalGet => exact kept
  | localSet | localTee => exact all_pop kept fun _ _ => kept
  | globalSet => exact all_pop kept fun _ _ => .of_memories rfl

theorem MemoryOp.grows_of_run (o : MemoryOp) (c : Config) :
    (o.run c).All (fun c' => c.store.Grows c'.store) fun _ s => c.store.Grows s := by
  have kept : c.store.Grows c.store := .of_memories rfl
  have stored (k : Nat) {f : Memory → Memory} (grows : ∀ m : Memory, m.Grows (f m)) :
      c.store.Grows (c.store.modifyMemory k f) :=
    Store.grows_modifyMemory (grows _)
  cases o with
  | size => exact kept
  | drop => exact .of_memories rfl
  | load | vectorLoad => exact all_pop kept fun _ _ => all_ite (fun _ => kept) fun _ => kept
  | laneLoad => exact all_pop₂ kept fun _ _ _ => all_ite (fun _ => kept) fun _ => kept
  | store _ _ arg | laneStore _ _ arg =>
    exact all_pop₂ kept fun _ _ _ =>
      all_ite (fun _ => stored arg.memory fun m => m.grows_write _ _) fun _ => kept
  | grow k =>
    refine all_pop kept fun delta s => all_ite (fun allowed => ?_) fun _ => kept
    exact Store.grows_modifyMemory (Memory.grows_grow allowed)
  | fill k | copy k | init k =>
    exact all_pop₃ kept fun _ _ _ _ =>
      all_ite (fun _ => stored k fun m => m.grows_write _ _) fun _ => kept

theorem TableOp.grows_of_run (o : TableOp) (c : Config) :
    (o.run c).All (fun c' => c.store.Grows c'.store) fun _ s => c.store.Grows s := by
  have kept : c.store.Grows c.store := .of_memories rfl
  cases o with
  | size => exact kept
  | drop => exact .of_memories rfl
  | get => exact all_pop kept fun _ _ => all_ite (fun _ => kept) fun _ => kept
  | set => exact all_pop₂ kept fun _ _ _ => all_ite (fun _ => .of_memories rfl) fun _ => kept
  | grow => exact all_pop₂ kept fun _ _ _ => all_ite (fun _ => .of_memories rfl) fun _ => kept
  | fill | copy | init =>
    exact all_pop₃ kept fun _ _ _ _ => all_ite (fun _ => .of_memories rfl) fun _ => kept

theorem grows_of_run (o : Op) (c : Config) :
    (o.run c).All (fun c' => c.store.Grows c'.store) fun _ s => c.store.Grows s := by
  have kept : c.store.Grows c.store := .of_memories rfl
  cases o with
  | nop | const | refNull | refFunc => exact kept
  | drop | refIsNull => exact all_pop kept fun _ _ => kept
  | select => exact all_pop₃ kept fun _ _ _ _ => kept
  | unary op =>
    refine all_pop kept fun a s => ?_
    cases op.apply a <;> exact kept
  | binary op =>
    refine all_pop₂ kept fun a b s => ?_
    cases op.apply a b <;> exact kept
  | vector op =>
    rw [run_vector]
    exact all_popMany kept fun _ _ => kept
  | var op => exact op.grows_of_run c
  | memory op => exact op.grows_of_run c
  | table op => exact op.grows_of_run c

end Wasm

namespace Wasi

open Wasm (Memory Slot)

def Outcome.memory : Outcome → Memory
  | .returns _ m _ | .ends _ m _ => m

variable {m m' : Memory} {c : Context}

theorem grows_of_put {align a : Nat} {bytes : List UInt8} (puts : put m align a bytes = .ok m') :
    m.Grows m' := by
  obtain ⟨_, -, rfl⟩ := map_eq_ok.mp puts
  exact m.grows_write a bytes

theorem grows_of_putAll {stores : List (Nat × List UInt8)} (puts : putAll m stores = .ok m') :
    m.Grows m' := by
  induction stores generalizing m with
  | nil =>
    cases puts
    exact .refl _
  | cons store stores ih =>
    obtain ⟨m₁, first, rest⟩ := bind_eq_ok.mp puts
    exact (grows_of_put first).trans (ih rest)

theorem grows_of_transfer {moved : Nat → Nat} {buffers count result : Nat}
    (moves : transfer m moved buffers count result = .ok m') : m.Grows m' := by
  obtain ⟨found, -, stores⟩ := bind_eq_ok.mp moves
  cases found with
  | none => exact grows_of_put stores
  | some buffer =>
    obtain ⟨_, -, stores⟩ := bind_eq_ok.mp stores
    exact grows_of_put stores

theorem grows_ofStored {stored : Except String Memory} (error : Nat)
    (grows : ∀ m', stored = .ok m' → m.Grows m') :
    m.Grows (Outcome.ofStored error m c stored).memory := by
  cases stored with
  | ok m' => exact grows m' rfl
  | error message => exact .refl m

theorem grows_of_tell (clock result : Nat) (told : Clock → UInt64) :
    m.Grows (tell m c clock result told).memory := by
  unfold tell
  dsimp only
  split
  · exact grows_ofStored 0 fun _ => grows_of_put
  · exact grows_ofStored 0 fun _ => grows_of_put
  all_goals exact .refl m

theorem grows_of_askOutside (world : Outside) (call : Call) (args : List Slot) :
    m.Grows (askOutside world call args m c).memory := by
  unfold askOutside
  split
  · exact grows_ofStored _ fun _ => grows_of_putAll
  · exact .refl m

theorem grows_of_serve (world : Outside) (call : Call) (args : List Slot) (m : Memory)
    (c : Context) : m.Grows (serve world call args m c).memory := by
  have kept : m.Grows m := .refl m
  unfold serve
  split
  · exact kept
  · exact kept
  · split
    · rename_i written
      exact (grows_of_put written).trans (grows_ofStored 0 fun _ => grows_of_put)
    · exact kept
  · split <;> exact kept
  · split <;> exact kept
  · split <;> exact kept
  · split
    · exact grows_ofStored 0 fun _ => grows_of_transfer
    · exact kept
  · split
    · exact grows_ofStored 0 fun _ => grows_of_transfer
    · exact kept
  · refine grows_ofStored 0 fun m' stores => ?_
    obtain ⟨_, -, rfl⟩ := map_eq_ok.mp stores
    exact m.grows_write _ _
  · exact grows_of_tell ..
  · exact grows_of_tell ..
  · split
    · exact grows_of_askOutside ..
    · exact kept
  · exact grows_of_askOutside ..
  · exact kept

end Wasi

namespace Wasm

theorem grows_of_serve (p : Program) (call : Wasi.Call) (args : List Slot) (s : Store) :
    (p.serve call args s).All s.Grows fun _ s' => s.Grows s' := by
  unfold Program.serve
  split
  · exact .of_memories rfl
  · rename_i k _
    have grows := Wasi.grows_of_serve p.outside call args (s.memory k) s.descriptors
    have stored {m : Memory} (grows : (s.memory k).Grows m) :
        s.Grows (s.modifyMemory k fun _ => m) :=
      Store.grows_modifyMemory grows
    split
    · rename_i answers
      rw [answers] at grows
      exact (stored grows).trans (.of_memories rfl)
    · rename_i answers
      rw [answers] at grows
      exact (stored grows).trans (.of_memories rfl)

theorem invariant_grows (p : Program) (start : Store) :
    Invariant p (fun s _ => start.Grows s) fun _ s => start.Grows s where
  op o c grows := by
    have step := grows_of_run o c
    cases run : o.run c with
    | next c' =>
      rw [run] at step
      exact grows.trans step
    | stop reason s =>
      rw [run] at step
      exact grows.trans step
  spend _ _ _ grows := grows
  save _ _ grows := grows.trans (.of_memories rfl)
  stop _ _ _ grows _ := grows
  exhausted _ _ grows _ := grows.trans (.of_memories rfl)
  serve call args s grows := by
    have step := grows_of_serve p call args s
    cases served : p.serve call args s with
    | done results s' =>
      rw [served] at step
      exact grows.trans step
    | stop reason s' =>
      rw [served] at step
      exact grows.trans step

theorem grows_call (p : Program) (f : Nat) (args : List Slot) (s : Store) :
    (p.call f args s).All s.Grows fun _ s' => s.Grows s' :=
  (invariant_grows p s).call f args (.of_memories rfl)

theorem grows_of_reaches {p : Program} {q q' : Point} (reaches : Point.Reaches p q q') :
    q.config.store.Grows q'.config.store :=
  (invariant_grows p q.config.store).reaches reaches (.of_memories rfl)

def Store.Within (cap : Nat) (s : Store) : Prop :=
  ∀ k, (s.memory k).size ≤ cap ∧ (s.memory k).maxPages * pageSize ≤ cap

def Store.totalSize (s : Store) : Nat :=
  (s.memories.toList.map Memory.size).sum

variable {s s' : Store} {cap : Nat}

theorem Store.Within.grows (within : s.Within cap) (grows : s.Grows s') : s'.Within cap := by
  intro k
  obtain ⟨size, bound⟩ := within k
  refine ⟨?_, by rwa [(grows.each k).maxPages]⟩
  rcases le_max_iff.mp (grows.each k).most with most | most
  · exact (Nat.mul_le_mul_right pageSize most).trans size
  · exact (Nat.mul_le_mul_right pageSize most).trans bound

theorem Store.Within.totalSize_le (within : s.Within cap) :
    s.totalSize ≤ s.memories.size * cap := by
  have each : ∀ n ∈ s.memories.toList.map Memory.size, n ≤ cap := by
    intro n member
    obtain ⟨m, kept, rfl⟩ := List.mem_map.mp member
    obtain ⟨k, inside, found⟩ := List.getElem_of_mem kept
    have size := (within k).1
    rw [Array.length_toList] at inside
    rw [Array.getElem_toList] at found
    rwa [Store.memory, Array.getD_eq_getD_getElem?, Array.getElem?_eq_getElem inside, found] at size
  have total := List.sum_le_card_nsmul _ _ each
  simpa [Store.totalSize] using total

theorem run_memoryGrow_beyond {c : Config} {k delta : Nat} {stack : List Slot}
    (within : c.store.Within cap) (asked : c.stack = delta :: stack)
    (beyond : cap < ((c.store.memory k).pages + delta) * pageSize) :
    (MemoryOp.grow k).run c = .next { c with stack := growFailed :: stack } := by
  obtain ⟨size, bound⟩ := within k
  have refused : (c.store.memory k).mayGrow delta = false := by
    refine decide_eq_false ?_
    rintro (still | room)
    · rw [still, Nat.add_zero] at beyond
      exact absurd beyond (Nat.not_lt_of_le size)
    · have larger := Nat.mul_le_mul_right pageSize room
      omega
  simp only [MemoryOp.run, Config.pop, asked, refused]
  rfl

end Wasm

end ModuleHost
