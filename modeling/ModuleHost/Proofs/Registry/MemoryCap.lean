import ModuleHost.Proofs.GuestModule
import ModuleHost.Proofs.Instance.Memories
import ModuleHost.Proofs.Instance.Metering
import ModuleHost.Proofs.Registry.Instances
import ModuleHost.Proofs.Registry.Lifecycle

namespace ModuleHost.Registry

open Wasm (Limits Point growFailed pageSize)

variable {r : Registry} {h : Handle} {i : Instance}

structure Capped (cap : Nat) (i : Instance) : Prop where
  within : i.store.Within cap
  count : i.store.memories.size = i.program.module.memories.size

variable {cap : Nat}

theorem capped_of_create {engine : Engine} {limits : Settings.Limits} {pool pool' : Pool}
    {m : GuestModule} {fuel : Option UInt64}
    (created : Instance.create engine limits pool m fuel = .ok (i, pool')) :
    Capped limits.memoryBytes i := by
  obtain ⟨within, count⟩ := Instance.creationLaws.within created
  obtain ⟨calls, -, program, -⟩ := Instance.creationLaws.links created
  exact ⟨within, by rw [count, program]; rfl⟩

theorem Capped.step (capped : Capped cap i) (op : Instance.Op) : Capped cap (i.step op).2 := by
  have grows := i.grows_step op
  refine ⟨capped.within.grows grows, ?_⟩
  rw [grows.count, Instance.program_step, capped.count]

theorem Capped.reaches (capped : Capped cap i) {func : Wasm.Func} {args : List Wasm.Slot}
    {q : Point} (reaches : Point.Reaches i.program (func.entry args i.store) q) :
    q.config.store.Within cap :=
  capped.within.grows (Wasm.grows_of_reaches reaches)

theorem capped_after [Runtime] {s : Settings} {r₀ : Registry} (created : create s = .ok r₀)
    {ops : List Op} (fair : ∀ change, Op.use h change ∉ ops)
    (live : (r₀.after ops).get? h = some i) :
    Capped s.limits.memoryBytes i := by
  obtain ⟨-, -, limits⟩ := settings_of_create created
  obtain ⟨empty, -⟩ := empty_of_create created
  refine live_after ?_ ?_ (fun _ op capped => capped.step op) fair i live
  · intro i live
    rw [get?, empty] at live
    cases live
  · intro _ m pool fuel i pool' made
    rw [← limits]
    exact capped_of_create made

/-- Every memory keeps to a cap, between calls and during them. -/
structure MemoriesCapped (cap : Nat) (r : Registry) : Prop where
  each : ∀ h i, r.get? h = some i → ∀ k, (i.store.memory k).size ≤ cap
  total : ∀ h i, r.get? h = some i →
    i.store.totalSize ≤ i.program.module.memories.size * cap
  inside : ∀ h i func args q, r.get? h = some i →
    Point.Reaches i.program (Wasm.Func.entry func args i.store) q →
      ∀ k, (q.config.store.memory k).size ≤ cap
  growth : ∀ h i func args q k delta stack, r.get? h = some i →
    Point.Reaches i.program (Wasm.Func.entry func args i.store) q →
      q.config.stack = delta :: stack →
      cap < ((q.config.store.memory k).pages + delta) * pageSize →
        (Wasm.MemoryOp.grow k).run q.config = .next { q.config with stack := growFailed :: stack }
  refusal : ∀ (source : Source) fuel m, source.load r.engine = .ok m →
    (∃ l ∈ m.module.memories, cap < l.min * pageSize) →
      ∃ text, source.create r fuel = .error (.instantiation text)

theorem create_of_large {source : Source} {fuel : Option UInt64} {m : GuestModule}
    (loads : source.load r.engine = .ok m)
    (large : ∃ l ∈ m.module.memories, r.limits.memoryBytes < l.min * pageSize) :
    ∃ text, source.create r fuel = .error (.instantiation text) := by
  obtain ⟨text, refused⟩ : ∃ text, Instance.create r.engine r.limits r.pool m fuel =
      .error (.instantiation text) := Instance.creationLaws.tooLarge large
  exact ⟨text, (create_eq_error_of_load loads).mpr refused⟩

theorem memories_capped [Runtime] {s : Settings} {r₀ : Registry} (created : create s = .ok r₀)
    {ops : List Op} (fair : ∀ h change, Op.use h change ∉ ops) :
    (r₀.after ops).MemoriesCapped s.limits.memoryBytes := by
  obtain ⟨-, -, limits⟩ := settings_of_create created
  have same := sameSettings_after r₀ ops
  have capped : ∀ h i, (r₀.after ops).get? h = some i → Capped s.limits.memoryBytes i :=
    fun h i live => capped_after created (fair h) live
  refine ⟨?_, ?_, ?_, ?_, ?_⟩
  · intro h i live k
    exact ((capped h i live).within k).1
  · intro h i live
    have total := (capped h i live).within.totalSize_le
    rwa [(capped h i live).count] at total
  · intro h i func args q live reaches k
    exact ((capped h i live).reaches reaches k).1
  · intro h i func args q k delta stack live reaches asked beyond
    exact Wasm.run_memoryGrow_beyond ((capped h i live).reaches reaches) asked beyond
  · intro source fuel m loads large
    rw [← limits, ← same.limits] at large
    exact create_of_large loads large

def twoMemoriesBytes : List UInt8 :=
  [0, 97, 115, 109, 1, 0, 0, 0, 1, 6, 1, 96, 1, 127, 1, 127, 3, 2, 1, 0, 5, 5, 2, 0, 16, 0, 0, 7, 8,
    1, 4, 103, 114, 111, 119, 0, 0, 10, 8, 1, 6, 0, 32, 0, 64, 1, 11]

def twoMemories : GuestModule where
  module := {
    types := #[⟨[.i32], [.i32]⟩], imports := []
    funcs := #[⟨0, [], [.op (.var (.localGet 0)), .op (.memory (.grow 1))]⟩], tables := #[]
    memories := #[⟨16, none⟩, ⟨0, none⟩], globals := #[], exports := [⟨"grow", .func 0⟩]
    start := none, elems := #[], dataCount := none, datas := #[] }
  fingerprint := ModuleHost.fingerprint twoMemoriesBytes

theorem ofBytes_twoMemories {engine : Engine} (separate : engine.settings.pooling = false) :
    GuestModule.ofBytes engine twoMemoriesBytes = .ok twoMemories := by
  refine GuestModule.ofBytes_of_check (by decide) rfl rfl (by decide +kernel) ?_
  rw [GuestModule.checkSlot, separate]
  rfl

/-- The second memory grows although the first one is as large as both may be together. -/
theorem total_beyond_cap : ∃ r₀ h r i, create { limits := { memoryMb := 1 } } = .ok r₀ ∧
    GuestModule.ofBytes r₀.engine twoMemoriesBytes = .ok twoMemories ∧
    r₀.createFrom twoMemories none = .ok (h, r) ∧
    (r.call h none "grow" [.i32 1]).1 = .ok [.i32 0] ∧
    (r.call h none "grow" [.i32 1]).2.get? h = some i ∧
    ({ memoryMb := 1 } : Settings.Limits).memoryBytes < i.store.totalSize :=
  ⟨_, _, _, _, rfl, ofBytes_twoMemories rfl, rfl, rfl, rfl, by decide⟩

theorem memories_capped_twoMemories :
    let s : Settings := { limits := { memoryMb := 1 } }
    let ops : List Op := [.createFrom twoMemories none, .call 1 none "grow" [.i32 16]]
    ∃ r₀ i, create s = .ok r₀ ∧ (∀ h change, Op.use h change ∉ ops) ∧
      (r₀.trace ops).map Prod.snd = [.handle 1, .values [.i32 0]] ∧
      (r₀.after ops).get? 1 = some i ∧ i.store.totalSize = 2 * s.limits.memoryBytes ∧
      (i.call none "grow" [.i32 1]).1 = .ok [.ofBits .i32 growFailed] ∧
      (r₀.after ops).MemoriesCapped s.limits.memoryBytes := by
  have fair : ∀ h change, Op.use h change ∉
      ([.createFrom twoMemories none, .call 1 none "grow" [.i32 16]] : List Op) := by
    intro h change member
    simp at member
  exact ⟨_, _, rfl, fair, rfl, rfl, rfl, rfl, memories_capped (s := { limits := _ }) rfl fair⟩

end ModuleHost.Registry
