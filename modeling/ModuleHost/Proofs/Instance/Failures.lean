import ModuleHost.Proofs.Instance.Creation

/-!
# Failed creations

A creation fails at one of five stages (`create_eq_error_iff`): it does not link, gets no slot, has
a memory that is too large, has a segment that reaches past the end of its table or memory
(`copySegments_eq_error`), or has a start function that stops. What it reports is told by its first
letter from what it reports of a trap, and traps are those of segments and of the start function
(`untrapped_or_of_create`).
-/

namespace ModuleHost

def Failure.Untrapped (e : Failure) : Prop :=
  ∃ text, e = .instantiation text ∧ text.toList.head?.getD 's' ∉ ['s', 'f']

theorem Failure.untrapped_of_head {text : String}
    (head : text.toList.head?.getD 's' ∉ ['s', 'f']) : (Failure.instantiation text).Untrapped :=
  ⟨text, rfl, head⟩

namespace GuestFault

theorem toCreationFailure_of_trap {layers : List String} {t : Wasm.Trap} (other : t ≠ .outOfFuel) :
    (⟨layers, .trap t⟩ : GuestFault).toCreationFailure =
      .instantiation ("start function trapped: " ++ t.message) := by
  cases t with
  | outOfFuel => exact absurd rfl other
  | _ => rfl

theorem toCreationFailure_eq (fault : GuestFault) :
    ∃ text, fault.toCreationFailure = .instantiation text := by
  unfold toCreationFailure
  split <;> exact ⟨_, rfl⟩

theorem untrapped_or_inGuest (reason : Wasm.Stop) :
    (inGuest reason).toCreationFailure.Untrapped ∨ ∃ t, reason = .trap t := by
  cases reason with
  | trap t => exact .inr ⟨t, rfl⟩
  | host message =>
    have told : (inGuest (.host message)).toCreationFailure =
        .instantiation (backtrace ++ ": " ++ message) := rfl
    rw [told]
    exact .inl (Failure.untrapped_of_head (by simp [backtrace, String.toList_append]))
  | stuck => exact .inl (Failure.untrapped_of_head (by decide))

end GuestFault

namespace Instance

open Wasm

variable {engine : Engine} {limits : Settings.Limits} {pool : Pool} {m : GuestModule}
  {fuel : Option UInt64} {e : Failure} {s : Store} {t : Trap}

def ElemOverhangs (s : Store) (e : Elem) : Prop :=
  ∃ k offset, e.mode = .active k offset ∧ (s.table k).size < evaluate s offset + e.items.length

def DataOverhangs (s : Store) (d : Data) : Prop :=
  ∃ k offset, d.mode = .active k offset ∧ (s.memory k).size < evaluate s offset + d.bytes.length

/-- A segment that does not fit where it is to be copied, once those before it are there. Elements
are copied before data. -/
inductive Overhangs (m : Module) (s : Store) : Trap → Prop
  | elem {before after : List Elem} {e : Elem} {s' : Store}
    (split : m.elems.toList = before ++ e :: after) (copied : copyElems s before = .ok s')
    (beyond : ElemOverhangs s' e) : Overhangs m s .tableOutOfBounds
  | data {before after : List Data} {d : Data} {s₁ s₂ : Store}
    (elems : copyElems s m.elems.toList = .ok s₁) (split : m.datas.toList = before ++ d :: after)
    (copied : copyDatas s₁ before = .ok s₂) (beyond : DataOverhangs s₂ d) :
    Overhangs m s .memoryOutOfBounds

theorem copyElems_eq_foldlM (s : Store) (es : List Elem) :
    copyElems s es = es.foldlM (fun s e => copyElems s [e]) s := by
  induction es generalizing s with
  | nil => rfl
  | cons e es ih =>
    simp only [List.foldlM_cons, ← ih]
    simp only [copyElems]
    cases e.mode with
    | active k offset =>
      dsimp only
      split <;> rfl
    | passive | declarative => rfl

theorem copyDatas_eq_foldlM (s : Store) (ds : List Data) :
    copyDatas s ds = ds.foldlM (fun s d => copyDatas s [d]) s := by
  induction ds generalizing s with
  | nil => rfl
  | cons d ds ih =>
    simp only [List.foldlM_cons, ← ih]
    simp only [copyDatas]
    cases d.mode with
    | active k offset =>
      dsimp only
      split <;> rfl
    | passive | declarative => rfl

theorem copyElems_singleton_eq_error {e : Elem} :
    copyElems s [e] = .error t ↔ ElemOverhangs s e ∧ t = .tableOutOfBounds := by
  unfold ElemOverhangs
  cases mode : e.mode with
  | active k offset =>
    by_cases fits : evaluate s offset + e.items.length ≤ (s.table k).size
    · simp [copyElems, mode, Store.fitsTable, Table.contains, references, fits]
    · simp [copyElems, mode, Store.fitsTable, Table.contains, references, fits, eq_comm,
        Nat.lt_of_not_le fits]
  | passive | declarative => simp [copyElems, mode]

theorem copyDatas_singleton_eq_error {d : Data} :
    copyDatas s [d] = .error t ↔ DataOverhangs s d ∧ t = .memoryOutOfBounds := by
  unfold DataOverhangs
  cases mode : d.mode with
  | active k offset =>
    by_cases fits : evaluate s offset + d.bytes.length ≤ (s.memory k).size
    · simp [copyDatas, mode, Store.fitsMemory, Memory.contains, fits]
    · simp [copyDatas, mode, Store.fitsMemory, Memory.contains, fits, eq_comm,
        Nat.lt_of_not_le fits]
  | passive | declarative => simp [copyDatas, mode]

theorem copyElems_eq_error {es : List Elem} :
    copyElems s es = .error t ↔ t = .tableOutOfBounds ∧ ∃ before e after s',
      es = before ++ e :: after ∧ copyElems s before = .ok s' ∧ ElemOverhangs s' e := by
  simp only [copyElems_eq_foldlM s, foldlM_eq_error_iff, copyElems_singleton_eq_error]
  constructor
  · rintro ⟨before, e, after, s', split, copied, beyond, trap⟩
    exact ⟨trap, before, e, after, s', split, copied, beyond⟩
  · rintro ⟨trap, before, e, after, s', split, copied, beyond⟩
    exact ⟨before, e, after, s', split, copied, beyond, trap⟩

theorem copyDatas_eq_error {ds : List Data} :
    copyDatas s ds = .error t ↔ t = .memoryOutOfBounds ∧ ∃ before d after s',
      ds = before ++ d :: after ∧ copyDatas s before = .ok s' ∧ DataOverhangs s' d := by
  simp only [copyDatas_eq_foldlM s, foldlM_eq_error_iff, copyDatas_singleton_eq_error]
  constructor
  · rintro ⟨before, d, after, s', split, copied, beyond, trap⟩
    exact ⟨trap, before, d, after, s', split, copied, beyond⟩
  · rintro ⟨trap, before, d, after, s', split, copied, beyond⟩
    exact ⟨before, d, after, s', split, copied, beyond, trap⟩

theorem copySegments_eq_error {m : Module} :
    copySegments m s = .error t ↔ Overhangs m s t := by
  simp only [copySegments, bind_eq_error]
  constructor
  · rintro (elems | ⟨s₁, elems, datas⟩)
    · obtain ⟨rfl, before, e, after, s', split, copied, beyond⟩ := copyElems_eq_error.mp elems
      exact .elem split copied beyond
    · obtain ⟨rfl, before, d, after, s', split, copied, beyond⟩ := copyDatas_eq_error.mp datas
      exact .data elems split copied beyond
  · intro overhangs
    cases overhangs with
    | elem split copied beyond =>
      exact .inl (copyElems_eq_error.mpr ⟨rfl, _, _, _, _, split, copied, beyond⟩)
    | data elems split copied beyond =>
      exact .inr ⟨_, elems, copyDatas_eq_error.mpr ⟨rfl, _, _, _, _, split, copied, beyond⟩⟩

theorem Overhangs.ne_outOfFuel {m : Module} (overhangs : Overhangs m s t) : t ≠ .outOfFuel := by
  cases overhangs <;> nofun

/-- A module is linked and has its slot and its memories, but a segment does not fit. -/
def SegmentFails (engine : Engine) (limits : Settings.Limits) (pool : Pool) (m : GuestModule)
    (t : Trap) : Prop :=
  ∃ calls pool' memories, Linking.resolve engine.settings.wasi m.module = .ok calls ∧
    pool.acquire = .ok pool' ∧
    makeMemories engine.settings limits m.module.memories.toList = .ok memories ∧
    Overhangs m.module (makeStore engine.settings m.module memories) t

/-- A module is ready, but its start function stops. -/
def StartFails (engine : Engine) (limits : Settings.Limits) (pool : Pool) (m : GuestModule)
    (fuel : Option UInt64) (reason : Stop) : Prop :=
  ∃ ready f store, getReady engine.settings limits pool m.module = .ok ready ∧
    m.module.start = some f ∧
    (linked engine limits m.module fuel ready.calls).call f [] ready.store =
      .stop reason store

/-- How a creation fails. It gets to a stage only through those before it. -/
inductive Fails (engine : Engine) (limits : Settings.Limits) (pool : Pool) (m : GuestModule)
    (fuel : Option UInt64) : Failure → Prop
  | link {fault : Linking.Fault}
    (unlinked : Linking.resolve engine.settings.wasi m.module = .error fault) :
    Fails engine limits pool m fuel (.instantiation fault.message)
  | slot {calls : List Wasi.Call} {reason : String}
    (links : Linking.resolve engine.settings.wasi m.module = .ok calls)
    (full : pool.acquire = .error reason) : Fails engine limits pool m fuel (.instantiation reason)
  | memory {calls : List Wasi.Call} {pool' : Pool} {e : Failure}
    (links : Linking.resolve engine.settings.wasi m.module = .ok calls)
    (taken : pool.acquire = .ok pool')
    (unmade : makeMemories engine.settings limits m.module.memories.toList = .error e) :
    Fails engine limits pool m fuel e
  | segment {t : Trap} (overhangs : SegmentFails engine limits pool m t) :
    Fails engine limits pool m fuel (⟨[], .trap t⟩ : GuestFault).toCreationFailure
  | start {reason : Stop} (stops : StartFails engine limits pool m fuel reason) :
    Fails engine limits pool m fuel (GuestFault.inGuest reason).toCreationFailure

theorem runStart_eq_error {p : Program} {s : Store} {fault : GuestFault} :
    runStart p s = .error fault ↔
      ∃ f reason s', p.module.start = some f ∧ p.call f [] s = .stop reason s' ∧
        fault = .inGuest reason := by
  unfold runStart
  cases p.module.start with
  | none => simp
  | some f => cases run : p.call f [] s <;> simp [run, eq_comm]

theorem create_eq_error_iff :
    create engine limits pool m fuel = .error e ↔ Fails engine limits pool m fuel e := by
  rw [create_eq_error]
  constructor
  · rintro (unready | ⟨ready, fault, stands, stops, rfl⟩)
    -- The stages are tried in order, and each failure leaves those before it passed.
    · simp only [getReady, bind_eq_error, mapError_eq_error] at unready
      rcases unready with ⟨fault, unlinked, rfl⟩ |
        ⟨calls, links, ⟨reason, full, rfl⟩ | ⟨pool', taken, unready⟩⟩
      · exact .link unlinked
      · exact .slot (mapError_eq_ok.mp links) full
      · rw [mapError_eq_ok] at links taken
        rcases unready with unmade | ⟨memories, made, ⟨t, overhangs, rfl⟩ | ⟨store, -, returns⟩⟩
        · exact .memory links taken unmade
        · exact .segment ⟨calls, pool', memories, links, taken, made,
            copySegments_eq_error.mp overhangs⟩
        · cases returns
    · obtain ⟨f, reason, store, starts, run, rfl⟩ := runStart_eq_error.mp stops
      exact .start ⟨ready, f, store, stands, starts, run⟩
  · intro fails
    cases fails with
    | link unlinked => simp [getReady, unlinked, bind, Except.bind]
    | slot links full => simp [getReady, links, full, bind, Except.bind]
    | memory links taken unmade => simp [getReady, links, taken, unmade, bind, Except.bind]
    | segment overhangs =>
      obtain ⟨calls, pool', memories, links, taken, made, overhangs⟩ := overhangs
      have copied := copySegments_eq_error.mpr overhangs
      simp [getReady, links, taken, made, copied, bind, Except.bind]
    | start stops =>
      obtain ⟨ready, f, store, stands, starts, run⟩ := stops
      exact .inr ⟨ready, _, stands, runStart_eq_error.mpr ⟨f, _, store, starts, run, rfl⟩, rfl⟩

theorem makeMemories_eq_error {settings : Settings.Engine} {ls : List Limits}
    (fails : makeMemories settings limits ls = .error e) :
    ∃ l ∈ ls, limits.memoryBytes < l.min * pageSize ∧ e = .instantiation
      ("memory minimum size of " ++ toString l.min ++ " pages exceeds memory limits") := by
  induction ls with
  | nil => cases fails
  | cons l ls ih =>
    simp only [makeMemories] at fails
    split at fails
    · obtain ⟨l', member, large, told⟩ := ih (map_eq_error.mp fails)
      exact ⟨l', List.mem_cons_of_mem l member, large, told⟩
    · rename_i large
      cases fails
      exact ⟨l, List.mem_cons_self, Nat.lt_of_not_le large, rfl⟩

theorem untrapped_of_fault (fault : Linking.Fault) :
    (Failure.instantiation fault.message).Untrapped := by
  unfold Linking.Fault.message
  cases fault <;> exact Failure.untrapped_of_head (by simp [String.toList_append])

theorem untrapped_of_acquire {reason : String} (full : pool.acquire = .error reason) :
    (Failure.instantiation reason).Untrapped := by
  unfold Pool.acquire at full
  split at full
  · split at full
    · cases full
      exact Failure.untrapped_of_head (by simp [String.toList_append])
    · cases full
  · cases full

theorem untrapped_or_of_create (fails : create engine limits pool m fuel = .error e) :
    e.Untrapped ∨ ∃ t layers, (SegmentFails engine limits pool m t ∨
      StartFails engine limits pool m fuel (.trap t)) ∧
        e = (⟨layers, .trap t⟩ : GuestFault).toCreationFailure := by
  cases create_eq_error_iff.mp fails with
  | link => exact .inl (untrapped_of_fault _)
  | slot links full => exact .inl (untrapped_of_acquire full)
  | memory links taken unmade =>
    obtain ⟨l, -, -, rfl⟩ := makeMemories_eq_error unmade
    exact .inl (Failure.untrapped_of_head (by simp [String.toList_append]))
  | segment overhangs => exact .inr ⟨_, [], .inl overhangs, rfl⟩
  | @start reason stops =>
    rcases GuestFault.untrapped_or_inGuest reason with other | ⟨t, rfl⟩
    · exact .inl other
    · exact .inr ⟨t, _, .inr stops, rfl⟩

theorem instantiation_of_create (fails : create engine limits pool m fuel = .error e) :
    ∃ text, e = .instantiation text := by
  rcases untrapped_or_of_create fails with ⟨text, rfl, -⟩ | ⟨t, layers, -, rfl⟩
  · exact ⟨text, rfl⟩
  · exact GuestFault.toCreationFailure_eq _

end Instance

end ModuleHost
