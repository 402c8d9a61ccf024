import ModuleHost.Instance.Basic
import ModuleHost.Proofs.Except
import ModuleHost.Proofs.Wasm.Growth
import ModuleHost.Proofs.Wasm.Memory

namespace ModuleHost.Instance

/-- An instance exports a memory, which holds a range. -/
structure Opens (i : Instance) (m offset length : Nat) : Prop where
  exported : i.exports.lookup "memory" = some (.memory m)
  inside : offset + length ≤ (i.store.memory m).size

def outOfBounds (offset length size : Nat) : Failure :=
  .invalidArgument ("memory access " ++ toString offset ++ "+" ++ toString length ++
    " out of bounds (size " ++ toString size ++ ")")

/-- Why a range is not open. -/
inductive Closed (i : Instance) (offset length : Nat) : Failure → Prop
  | noMemory (absent : ∀ m, i.exports.lookup "memory" ≠ some (.memory m)) :
    Closed i offset length (.invalidArgument "instance does not export 'memory'")
  | outside {m : Nat} (exported : i.exports.lookup "memory" = some (.memory m))
    (beyond : (i.store.memory m).size < offset + length) :
    Closed i offset length (outOfBounds offset length (i.store.memory m).size)

structure Written (i : Instance) (m offset : Nat) (bytes : List UInt8) (i' : Instance) : Prop where
  only : ∃ memories, i' = { i with store := { i.store with memories } }
  count : i'.store.memories.size = i.store.memories.size
  others : ∀ k, k ≠ m → i'.store.memory k = i.store.memory k
  memory : (i.store.memory m).Written offset bytes (i'.store.memory m)

variable {i i' : Instance} {m offset length : Nat} {bytes : List UInt8} {e : Failure}

theorem memoryWith_of_exported (exported : i.exports.lookup "memory" = some (.memory m)) :
    i.memoryWith offset length =
      if offset + length ≤ (i.store.memory m).size then .ok m
      else .error (outOfBounds offset length (i.store.memory m).size) := by
  have index : i.memoryIndex = .ok m := by rw [memoryIndex, exported]
  rw [memoryWith, index]
  simp only [bind, Except.bind, Wasm.Memory.contains, decide_eq_true_eq]
  rfl

theorem memoryWith_of_absent (absent : ∀ m, i.exports.lookup "memory" ≠ some (.memory m)) :
    i.memoryWith offset length =
      .error (.invalidArgument "instance does not export 'memory'") := by
  have index : i.memoryIndex = .error (.invalidArgument "instance does not export 'memory'") := by
    unfold memoryIndex
    split
    · exact absurd ‹_› (absent _)
    · rfl
  rw [memoryWith, index]
  rfl

theorem memoryWith_eq_ok : i.memoryWith offset length = .ok m ↔ i.Opens m offset length := by
  constructor
  · intro opens
    by_cases exported : ∃ m', i.exports.lookup "memory" = some (.memory m')
    · obtain ⟨m', exported⟩ := exported
      rw [memoryWith_of_exported exported] at opens
      split at opens <;> cases opens
      exact ⟨exported, ‹_›⟩
    · rw [memoryWith_of_absent (not_exists.mp exported)] at opens
      cases opens
  · rintro ⟨exported, inside⟩
    rw [memoryWith_of_exported exported, if_pos inside]

theorem memoryWith_eq_error : i.memoryWith offset length = .error e ↔ i.Closed offset length e := by
  constructor
  · intro fails
    by_cases exported : ∃ m, i.exports.lookup "memory" = some (.memory m)
    · obtain ⟨m, exported⟩ := exported
      rw [memoryWith_of_exported exported] at fails
      split at fails <;> cases fails
      exact .outside exported (Nat.lt_of_not_le ‹_›)
    · rw [memoryWith_of_absent (not_exists.mp exported)] at fails
      cases fails
      exact .noMemory (not_exists.mp exported)
  · intro closed
    cases closed with
    | noMemory absent => exact memoryWith_of_absent absent
    | outside exported beyond =>
      rw [memoryWith_of_exported exported, if_neg (Nat.not_le_of_lt beyond)]

theorem readBytes_eq_ok_iff_opens : i.readBytes offset length = .ok bytes ↔
    ∃ m, i.Opens m offset length ∧ (i.store.memory m).read offset length = bytes := by
  simp only [readBytes, map_eq_ok, memoryWith_eq_ok]

theorem readBytes_eq_error : i.readBytes offset length = .error e ↔ i.Closed offset length e := by
  rw [readBytes, map_eq_error, memoryWith_eq_error]

theorem writeBytes_eq_ok : i.writeBytes offset bytes = .ok i' ↔
    ∃ m, i.Opens m offset bytes.length ∧
      { i with store := i.store.modifyMemory m (·.write offset bytes) } = i' := by
  simp only [writeBytes, map_eq_ok, memoryWith_eq_ok]

theorem writeBytes_eq_error :
    i.writeBytes offset bytes = .error e ↔ i.Closed offset bytes.length e := by
  rw [writeBytes, map_eq_error, memoryWith_eq_error]

theorem writeBytes_nil : i.writeBytes offset [] = .ok i ↔ ∃ m, i.Opens m offset 0 := by
  have same (m : Nat) : i.store.modifyMemory m (·.write offset []) = i.store := by
    have memories : i.store.memories.modify m (·.write offset []) = i.store.memories := by
      refine Array.ext_getElem? fun k => ?_
      rw [Array.getElem?_modify]
      split
      · cases i.store.memories[k]? <;> rfl
      · rfl
    rw [Wasm.Store.modifyMemory, memories]
  simp only [writeBytes_eq_ok, same, and_true, List.length_nil]

theorem memory_write (opens : i.Opens m offset bytes.length) :
    (i.store.modifyMemory m (·.write offset bytes)).memory m =
      (i.store.memory m).write offset bytes := by
  rw [Wasm.Store.memory_modifyMemory]
  split
  · rfl
  · rename_i missing
    have absent : i.store.memories.size ≤ m := by simpa using missing
    have empty : i.store.memory m = .ofPages 0 0 := by
      rw [Wasm.Store.memory, Array.getD_eq_getD_getElem?, Array.getElem?_eq_none absent,
        Option.getD_none]
    have inside := opens.inside
    rw [empty, Wasm.Memory.size, Wasm.Memory.ofPages, Nat.zero_mul] at inside
    have empty : bytes.length = 0 := by omega
    obtain rfl := List.length_eq_zero_iff.mp empty
    rfl

theorem written_of_writeBytes (writes : i.writeBytes offset bytes = .ok i') :
    ∃ m, i.Opens m offset bytes.length ∧ i.Written m offset bytes i' := by
  obtain ⟨m, opens, rfl⟩ := writeBytes_eq_ok.mp writes
  refine ⟨m, opens, ⟨_, rfl⟩, Array.size_modify, fun k other => ?_, ?_⟩
  · exact (Wasm.Store.memory_modifyMemory ..).trans (if_neg fun here => other here.1)
  · exact memory_write opens ▸ Wasm.Memory.written_write ..

namespace Written

variable {a count : Nat} (written : i.Written m offset bytes i')

include written

theorem exports : i'.exports = i.exports := by
  obtain ⟨memories, rfl⟩ := written.only
  rfl

theorem fuelLeft : i'.fuelLeft = i.fuelLeft := by
  obtain ⟨memories, rfl⟩ := written.only
  rfl

theorem size (k : Nat) : (i'.store.memory k).size = (i.store.memory k).size := by
  by_cases here : k = m
  · rw [here, written.memory.size]
  · rw [written.others k here]

theorem memoryWith : i'.memoryWith a count = i.memoryWith a count := by
  have index : i'.memoryIndex = i.memoryIndex := by
    rw [memoryIndex, written.exports, memoryIndex]
  simp only [Instance.memoryWith, index, Wasm.Memory.contains, written.size]
  rfl

theorem exists_readBytes (exported : i.exports.lookup "memory" = some (.memory m))
    {before : List UInt8} (reads : i.readBytes a count = .ok before) :
    ∃ after, i'.readBytes a count = .ok after ∧ after.length = count ∧ ∀ k, k < count →
      after[k]? = if offset ≤ a + k ∧ a + k < offset + bytes.length then bytes[a + k - offset]?
        else before[k]? := by
  obtain ⟨m', opens, rfl⟩ := readBytes_eq_ok_iff_opens.mp reads
  obtain rfl : m' = m := by
    have same := opens.exported.symm.trans exported
    cases same
    rfl
  refine ⟨(i'.store.memory m').read a count, ?_, Wasm.Memory.length_read ..,
    fun _ => written.memory.getElem?_read⟩
  rw [readBytes, written.memoryWith, memoryWith_eq_ok.mpr opens]
  rfl

end Written

end ModuleHost.Instance
