import ModuleHost.Proofs.Instance.MemoryAccess
import ModuleHost.Proofs.Registry.MemoryCap

namespace ModuleHost.Registry

open Instance (Opens Closed Written)

variable {r r' : Registry} {h : Handle} {i : Instance} {offset length : Nat} {bytes : List UInt8}
  {e : Failure}

theorem readBytes_of_live (live : r.get? h = some i) :
    r.readBytes h offset length = i.readBytes offset length := by
  rw [readBytes, get_eq_ok.mpr live]
  rfl

theorem writeBytes_of_live (live : r.get? h = some i) :
    r.writeBytes h offset bytes = (i.writeBytes offset bytes).map (r.set h) := by
  rw [writeBytes, get_eq_ok.mpr live]
  show (i.writeBytes offset bytes >>= fun i' => pure (r.set h i')) = _
  cases i.writeBytes offset bytes <;> rfl

def rangeEnd (offset length : UInt64) : Option UInt64 :=
  if offset.toNat + length.toNat < 2 ^ 64 then some (offset + length) else none

theorem rangeEnd_le_iff {size : Nat} (small : size < 2 ^ 64) (offset length : UInt64) :
    (∃ last ∈ rangeEnd offset length, last ≤ UInt64.ofNat size) ↔
      offset.toNat + length.toNat ≤ size := by
  have word : (UInt64.ofNat size).toNat = size := UInt64.toNat_ofNat_of_lt' small
  unfold rangeEnd
  split
  · rename_i fits
    have sum : (offset + length).toNat = offset.toNat + length.toNat := by
      rw [UInt64.toNat_add, Nat.mod_eq_of_lt fits]
    simp [UInt64.le_iff_toNat_le, word, sum]
  · simp
    omega

theorem memoryBytes_lt (limits : Settings.Limits) : limits.memoryBytes < 2 ^ 64 := by
  have megabytes := limits.memoryMb.toNat_lt
  unfold Settings.Limits.memoryBytes Settings.bytesPerMb
  omega

/-- Adding in 64 bits tells whether the memory of an instance holds a range. -/
def WordsDecide (i : Instance) : Prop :=
  ∀ m, i.exports.lookup "memory" = some (.memory m) → ∀ offset length : UInt64,
    (∃ last ∈ rangeEnd offset length, last ≤ UInt64.ofNat (i.store.memory m).size) ↔
      i.Opens m offset.toNat length.toNat

theorem wordsDecide_after [Runtime] {s : Settings} {r₀ : Registry} (created : create s = .ok r₀)
    {ops : List Op} (fair : ∀ change, Op.use h change ∉ ops)
    (live : (r₀.after ops).get? h = some i) : WordsDecide i := by
  intro m exported offset length
  have small : (i.store.memory m).size < 2 ^ 64 :=
    ((capped_after created fair live).within m).1.trans_lt (memoryBytes_lt s.limits)
  rw [rangeEnd_le_iff small]
  exact ⟨fun inside => ⟨exported, inside⟩, Opens.inside⟩

/-- What a write that succeeds has changed: a memory of one instance, and there the bytes of its
range. -/
structure AfterWrite (r : Registry) (h : Handle) (i : Instance) (offset : Nat)
    (bytes : List UInt8) (r' : Registry) : Prop where
  written : ∃ m i', i.Opens m offset bytes.length ∧ i.Written m offset bytes i' ∧ r' = r.set h i'
  overlaid : ∀ a count before, r.readBytes h a count = .ok before →
    ∃ after, r'.readBytes h a count = .ok after ∧ after.length = count ∧ ∀ k, k < count →
      after[k]? = if offset ≤ a + k ∧ a + k < offset + bytes.length then bytes[a + k - offset]?
        else before[k]?
  refused : ∀ a count e, r'.readBytes h a count = .error e ↔ r.readBytes h a count = .error e
  fuel : r'.fuelLeft h = r.fuelLeft h
  elsewhere : ∀ j, j ≠ h → r'.get? j = r.get? j

/-- What reads and writes of the memory of a live instance do. -/
structure MemoryAccess (r : Registry) (h : Handle) (i : Instance) : Prop where
  reads : ∀ offset length,
    (∃ bytes, r.readBytes h offset length = .ok bytes) ↔ ∃ m, i.Opens m offset length
  readBytes : ∀ offset length bytes, r.readBytes h offset length = .ok bytes →
    ∃ m, i.Opens m offset length ∧ bytes.length = length ∧ ∀ k, k < length →
      bytes[k]? = some ((i.store.memory m).get (offset + k))
  readFails : ∀ offset length e, r.readBytes h offset length = .error e ↔ i.Closed offset length e
  readKeeps : ∀ offset length, (r.step (.readBytes h offset length)).2 = r
  writes : ∀ offset bytes,
    (∃ r', r.writeBytes h offset bytes = .ok r') ↔ ∃ m, i.Opens m offset bytes.length
  writeBytes : ∀ offset bytes r', r.writeBytes h offset bytes = .ok r' →
    r.AfterWrite h i offset bytes r'
  writeFails : ∀ offset bytes e,
    r.writeBytes h offset bytes = .error e ↔ i.Closed offset bytes.length e
  writeFailsKeeps : ∀ offset bytes e, r.writeBytes h offset bytes = .error e →
    r.step (.writeBytes h offset bytes) = (.failure e, r)
  empty : ∀ m offset, i.exports.lookup "memory" = some (.memory m) →
    (r.readBytes h offset 0 = .ok [] ↔ offset ≤ (i.store.memory m).size) ∧
      (r.writeBytes h offset [] = .ok r ↔ offset ≤ (i.store.memory m).size)

theorem readBytes_eq_ok (live : r.get? h = some i) :
    r.readBytes h offset length = .ok bytes ↔
      ∃ m, i.Opens m offset length ∧ (i.store.memory m).read offset length = bytes := by
  rw [readBytes_of_live live, Instance.readBytes_eq_ok_iff_opens]

theorem writeBytes_eq_ok (live : r.get? h = some i) :
    r.writeBytes h offset bytes = .ok r' ↔
      ∃ i', i.writeBytes offset bytes = .ok i' ∧ r.set h i' = r' := by
  rw [writeBytes_of_live live, map_eq_ok]

theorem exists_writeBytes_iff (live : r.get? h = some i) :
    (∃ r', r.writeBytes h offset bytes = .ok r') ↔ ∃ m, i.Opens m offset bytes.length := by
  simp only [writeBytes_eq_ok live, Instance.writeBytes_eq_ok]
  constructor
  · rintro ⟨-, -, ⟨m, opens, rfl⟩, rfl⟩
    exact ⟨m, opens⟩
  · rintro ⟨m, opens⟩
    exact ⟨_, _, ⟨m, opens, rfl⟩, rfl⟩

theorem afterWrite_of_live (live : r.get? h = some i)
    (writes : r.writeBytes h offset bytes = .ok r') : r.AfterWrite h i offset bytes r' := by
  obtain ⟨i', changes, rfl⟩ := (writeBytes_eq_ok live).mp writes
  obtain ⟨m, opens, written⟩ := Instance.written_of_writeBytes changes
  have live' : (r.set h i').get? h = some i' := get?_set.trans (if_pos rfl)
  refine
    { written := ⟨m, i', opens, written, rfl⟩
      overlaid := fun a count before reads => ?_
      refused := fun a count e => ?_
      fuel := ?_
      elsewhere := fun j other => get?_set.trans (if_neg other) }
  · rw [readBytes_of_live live] at reads
    rw [readBytes_of_live live']
    exact written.exists_readBytes opens.exported reads
  · rw [readBytes_of_live live, readBytes_of_live live', Instance.readBytes, Instance.readBytes,
      map_eq_error, map_eq_error, written.memoryWith]
  · rw [fuelLeft, fuelLeft, get_eq_ok.mpr live, get_eq_ok.mpr live']
    exact congrArg Except.ok written.fuelLeft

theorem empty_of_live {m : Nat} (live : r.get? h = some i)
    (exported : i.exports.lookup "memory" = some (.memory m)) :
    (r.readBytes h offset 0 = .ok [] ↔ offset ≤ (i.store.memory m).size) ∧
      (r.writeBytes h offset [] = .ok r ↔ offset ≤ (i.store.memory m).size) := by
  have opens : (∃ m', i.Opens m' offset 0) ↔ offset ≤ (i.store.memory m).size := by
    constructor
    · rintro ⟨m', exported', inside⟩
      cases exported.symm.trans exported'
      exact inside
    · exact fun inside => ⟨m, exported, inside⟩
  rw [← opens]
  constructor
  · simp only [readBytes_eq_ok live, Wasm.Memory.read, and_true]
  · constructor
    · exact fun writes => (exists_writeBytes_iff live).mp ⟨r, writes⟩
    · exact fun opens => (writeBytes_eq_ok live).mpr
        ⟨i, Instance.writeBytes_nil.mpr opens, set_of_get? live⟩

theorem memory_access_exact [Runtime] (live : r.get? h = some i) : MemoryAccess r h i ∧
    ∀ s r₀ ops, create s = .ok r₀ → (∀ change, Op.use h change ∉ ops) → r = r₀.after ops →
      WordsDecide i := by
  constructor
  · refine
      { reads := fun offset length => ?_
        readBytes := fun offset length bytes reads => ?_
        readFails := fun offset length e => ?_
        readKeeps := fun offset length => rfl
        writes := fun offset bytes => exists_writeBytes_iff live
        writeBytes := fun offset bytes r' => afterWrite_of_live live
        writeFails := fun offset bytes e => ?_
        writeFailsKeeps := fun offset bytes e fails => ?_
        empty := fun m offset => empty_of_live live }
    · simp only [readBytes_eq_ok live]
      exact ⟨fun ⟨_, m, opens, _⟩ => ⟨m, opens⟩, fun ⟨m, opens⟩ => ⟨_, m, opens, rfl⟩⟩
    · obtain ⟨m, opens, rfl⟩ := (readBytes_eq_ok live).mp reads
      exact ⟨m, opens, Wasm.Memory.length_read .., fun _ => Wasm.Memory.getElem?_read _ _⟩
    · rw [readBytes_of_live live, Instance.readBytes_eq_error]
    · rw [writeBytes_of_live live, map_eq_error, Instance.writeBytes_eq_error]
    · rw [step, fails]
  · rintro s r₀ ops created fair rfl
    exact wordsDecide_after created fair live

def openSecond : GuestModule :=
  { twoMemories with
    module := { twoMemories.module with
      exports := [⟨"grow", .func 0⟩, ⟨"memory", .memory 1⟩] } }

theorem memory_access_exact_openSecond :
    let ops : List Op :=
      [.createFrom openSecond none, .call 1 none "grow" [.i32 1], .writeBytes 1 1 [1, 2]]
    ∃ r₀ r i, create {} = .ok r₀ ∧ r = r₀.after ops ∧ r.get? 1 = some i ∧
      r.readBytes 1 0 4 = .ok [0, 1, 2, 0] ∧ (i.store.memory 1).size = 65536 ∧
      MemoryAccess r 1 i ∧ WordsDecide i := by
  have runs : ∃ r₀ r i, create {} = .ok r₀ ∧
      r = r₀.after [.createFrom openSecond none, .call 1 none "grow" [.i32 1],
        .writeBytes 1 1 [1, 2]] ∧ r.get? 1 = some i ∧
      r.readBytes 1 0 4 = .ok [0, 1, 2, 0] ∧ (i.store.memory 1).size = 65536 :=
    ⟨_, _, _, rfl, rfl, rfl, rfl, rfl⟩
  obtain ⟨r₀, r, i, created, after, live, reads, size⟩ := runs
  obtain ⟨access, words⟩ := memory_access_exact live
  exact ⟨r₀, r, i, created, after, live, reads, size, access,
    words _ _ _ created (by simp) after⟩

end ModuleHost.Registry
