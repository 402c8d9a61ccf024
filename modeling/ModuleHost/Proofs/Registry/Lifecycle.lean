import Mathlib.Tactic
import ModuleHost.Proofs.Registry.CallFailure
import ModuleHost.Proofs.Registry.Run

namespace ModuleHost.Registry

variable {r : Registry} {log : List Event} {h : Handle}

structure Tracks (log : List Event) (r : Registry) : Prop where
  counted : r.issued = (issuedBy log).length
  numbered : (issuedBy log).map UInt64.toNat = List.range' 1 (issuedBy log).length
  live : ∀ h, r.contains h = true ↔ Live log h
  ended : ∀ h ∈ destroyedBy log, h ∈ issuedBy log ∧ ¬ Live log h
  endedOnce : (destroyedBy log).Nodup

theorem tracks_nil (empty : r.instances = .empty) (unissued : r.issued = 0) : Tracks [] r where
  counted := unissued
  numbered := rfl
  live h := by simp [contains, get?, empty, not_live_nil]
  ended := nofun
  endedOnce := List.nodup_nil

namespace Tracks

theorem toNat_le (tracks : Tracks log r) (issued : h ∈ issuedBy log) : h.toNat ≤ r.issued := by
  have member : h.toNat ∈ (issuedBy log).map UInt64.toNat := List.mem_map_of_mem issued
  rw [tracks.numbered, List.mem_range'_1] at member
  rw [tracks.counted]
  omega

theorem nodup_issuedBy (tracks : Tracks log r) : (issuedBy log).Nodup := by
  refine List.Nodup.of_map UInt64.toNat ?_
  rw [tracks.numbered]
  exact List.nodup_range'

theorem fresh_not_issued (tracks : Tracks log r) (room : r.issued + 1 < 2 ^ 64) :
    r.freshHandle ∉ issuedBy log := by
  intro issued
  have bound := tracks.toNat_le issued
  rw [toNat_freshHandle room] at bound
  omega

variable {e : Event}

theorem issue (tracks : Tracks log r) (i : Instance) (pool : Pool)
    (issues : e.issued = some r.freshHandle) (keeps : e.destroyed = none)
    (room : r.issued + 1 < 2 ^ 64) : Tracks (log ++ [e]) (r.enroll i pool) := by
  have issued := issuedBy_append_of_some log issues
  have destroyed := destroyedBy_append_of_none log keeps
  refine ⟨?_, ?_, ?_, ?_, ?_⟩
  · rw [issued, List.length_append, ← tracks.counted]
    rfl
  · rw [issued, List.map_append, tracks.numbered, List.length_append, List.length_singleton,
      List.range'_1_concat, List.map_singleton, toNat_freshHandle room, tracks.counted,
      Nat.add_comm]
  · intro h
    rw [contains_enroll, live_append_singleton, issues, keeps, ← tracks.live]
    simp
  · intro h ended
    rw [destroyed] at ended
    obtain ⟨before, dead⟩ := tracks.ended h ended
    rw [issued, List.mem_append, live_append_singleton, issues]
    refine ⟨.inl before, ?_⟩
    rintro (same | ⟨live, -⟩)
    · exact tracks.fresh_not_issued room (Option.some.inj same ▸ before)
    · exact dead live
  · rw [destroyed]
    exact tracks.endedOnce

theorem destroy (tracks : Tracks log r) (pool : Pool) (live : r.contains h = true)
    (destroys : e.destroyed = some h) (issuesNone : e.issued = none) :
    Tracks (log ++ [e]) { r with instances := r.instances.erase h, pool := pool } := by
  have issued := issuedBy_append_of_none log issuesNone
  have destroyed := destroyedBy_append_of_some log destroys
  have before : Live log h := (tracks.live h).mp live
  refine ⟨?_, ?_, ?_, ?_, ?_⟩
  · rw [issued]
    exact tracks.counted
  · rw [issued]
    exact tracks.numbered
  · intro j
    rw [contains_erase, live_append_singleton, issuesNone, destroys, tracks.live]
    simp
  · intro j ended
    rw [destroyed, List.mem_append, List.mem_singleton] at ended
    rw [issued, live_append_singleton, issuesNone, destroys]
    rcases ended with ended | rfl
    · obtain ⟨issued, dead⟩ := tracks.ended j ended
      exact ⟨issued, by simp [dead]⟩
    · exact ⟨before.mem_issuedBy, by simp⟩
  · rw [destroyed]
    refine List.nodup_append.mpr ⟨tracks.endedOnce, List.nodup_singleton h, ?_⟩
    rintro j ended k single rfl
    exact (tracks.ended j ended).2 (List.mem_singleton.mp single ▸ before)

theorem same (tracks : Tracks log r) {r' : Registry} (same : r.SameHandles r')
    (issuesNone : e.issued = none) (keeps : e.destroyed = none) : Tracks (log ++ [e]) r' := by
  have issued := issuedBy_append_of_none log issuesNone
  have destroyed := destroyedBy_append_of_none log keeps
  have live (h : Handle) : Live (log ++ [e]) h ↔ Live log h := by
    simp [live_append_singleton, issuesNone, keeps]
  refine ⟨?_, ?_, ?_, ?_, ?_⟩
  · rw [issued, same.issued]
    exact tracks.counted
  · rw [issued]
    exact tracks.numbered
  · intro h
    rw [same.contains, live, tracks.live]
  · intro h ended
    rw [issued, live]
    exact tracks.ended h (destroyed ▸ ended)
  · rw [destroyed]
    exact tracks.endedOnce

end Tracks

theorem tracks_step {e : Event} {r' : Registry} (tracks : Tracks log r)
    (step : r.StepHandles e r') (room : (issuedBy (log ++ [e])).length < 2 ^ 64) :
    Tracks (log ++ [e]) r' := by
  cases step with
  | issue i pool issues keeps =>
    rw [issuedBy_append_of_some log issues, List.length_append, ← tracks.counted] at room
    exact tracks.issue i pool issues keeps room
  | destroy pool live destroys issuesNone => exact tracks.destroy pool live destroys issuesNone
  | same issuesNone keeps same => exact tracks.same same issuesNone keeps

theorem tracks_run (r₀ : Registry) (empty : r₀.instances = .empty) (unissued : r₀.issued = 0)
    (ops : List Op) :
    (issuedBy (r₀.trace ops)).length < 2 ^ 64 → Tracks (r₀.trace ops) (r₀.after ops) := by
  refine Run.invariant (P := fun log r => (issuedBy log).length < 2 ^ 64 → Tracks log r) ?_ ?_ ops
  · exact fun _ => tracks_nil empty unissued
  · intro log r op tracks room
    have earlier : (issuedBy log).length < 2 ^ 64 := by
      rw [issuedBy, List.filterMap_append, List.length_append] at room
      exact Nat.lt_of_le_of_lt (Nat.le_add_right _ _) room
    exact tracks_step (tracks earlier) (stepHandles_record r op) room

theorem empty_of_create [Runtime] {s : Settings} (created : create s = .ok r) :
    r.instances = .empty ∧ r.issued = 0 := by
  simp only [create, bind_eq_ok] at created
  obtain ⟨engine, -, same⟩ := created
  cases same
  exact ⟨rfl, rfl⟩

theorem Tracks.size_eq (tracks : Tracks log r) : r.size = {h | Live log h}.ncard := by
  have keys : {h | Live log h} = (r.instances.keys.toFinset : Set Handle) := by
    ext h
    rw [Set.mem_ofPred_eq, Finset.mem_coe, List.mem_toFinset, mem_keys, tracks.live]
  rw [keys, Set.ncard_coe_finset, List.toFinset_card_of_nodup r.instances.keys_nodup,
    size_eq_length]

section Invalid

variable {interface : Option String} {name : String} {args : List Value}

theorem not_refusal_invalidHandle {i : Instance} : ¬ i.Refusal name args (.invalidHandle h) :=
  nofun

theorem use_eq_error {α : Type} {act : Instance → α × Instance} {e : Failure} :
    (r.use h fun i => (.ok (act i).1, (act i).2)).1 = .error e ↔
      r.contains h = false ∧ e = .invalidHandle h := by
  rw [contains_eq_false]
  cases found : r.get? h with
  | none => simp [use_of_dead found, eq_comm]
  | some i => simp [use_of_live found]

theorem signature_eq_invalidHandle {j : Handle} :
    r.signature h interface name = .error (.invalidHandle j) ↔ r.contains h = false ∧ j = h := by
  rw [contains_eq_false]
  cases live : r.get? h with
  | none => simp [signature_of_dead live, eq_comm]
  | some i =>
    rw [signature_of_live live, Instance.signature, map_eq_error]
    simp only [reduceCtorEq, false_and, iff_false]
    intro fails
    have refusal : i.Refusal _ [] (.invalidHandle j) := Instance.refusal_of_resolve fails
    exact not_refusal_invalidHandle refusal

theorem call_eq_invalidHandle {j : Handle} :
    (r.call h interface name args).1 = .error (.invalidHandle j) ↔
      r.contains h = false ∧ j = h := by
  constructor
  · intro fails
    rcases refused_or_stopped fails with refused | stopped
    · cases refused.refusal with
      | invalidHandle dead => exact ⟨dead, rfl⟩
      | dispatch _ refusal => exact absurd refusal not_refusal_invalidHandle
    · cases stopped.group
  · rintro ⟨dead, rfl⟩
    rw [call, use_of_dead (contains_eq_false.mp dead)]

end Invalid

/-- How the registry after a run and the log of the run go together. -/
structure Lifecycle (log : List Event) (r : Registry) : Prop where
  numbered : ∀ k h, (issuedBy log)[k]? = some h → h.toNat = k + 1
  issuedOnce : (issuedBy log).Nodup
  counted : r.issued = (issuedBy log).length
  contains : ∀ h, r.contains h = true ↔ Live log h
  size : r.size = {h | Live log h}.ncard
  isEmpty : r.isEmpty = true ↔ r.size = 0
  destroyedOnce : (destroyedBy log).Nodup
  destroy : ∀ h e, r.destroy h = .error e ↔ r.contains h = false ∧ e = .invalidHandle h
  call : ∀ h interface name args j, (r.call h interface name args).1 = .error (.invalidHandle j) ↔
    r.contains h = false ∧ j = h
  signature : ∀ h interface name j, r.signature h interface name = .error (.invalidHandle j) ↔
    r.contains h = false ∧ j = h
  use : ∀ {α : Type} (act : Instance → α × Instance) h e,
    (r.use h fun i => (.ok (act i).1, (act i).2)).1 = .error e ↔
      r.contains h = false ∧ e = .invalidHandle h
  calls : ∀ h interface name args, r.SameHandles (r.call h interface name args).2

theorem lifecycle [Runtime] {s : Settings} {r₀ : Registry} (created : create s = .ok r₀)
    (ops : List Op) (room : (issuedBy (r₀.trace ops)).length < 2 ^ 64) :
    Lifecycle (r₀.trace ops) (r₀.after ops) := by
  obtain ⟨empty, unissued⟩ := empty_of_create created
  have tracks := tracks_run r₀ empty unissued ops room
  refine
    { numbered := ?_
      issuedOnce := tracks.nodup_issuedBy
      counted := tracks.counted
      contains := tracks.live
      size := tracks.size_eq
      isEmpty := (r₀.after ops).instances.isEmpty_iff
      destroyedOnce := tracks.endedOnce
      destroy := fun _ _ => destroy_eq_error
      call := fun _ _ _ _ _ => call_eq_invalidHandle
      signature := fun _ _ _ _ => signature_eq_invalidHandle
      use := fun _ _ _ => use_eq_error
      calls := fun h _ _ _ => sameHandles_use _ h _ }
  intro k h issued
  have number := congrArg (Option.map UInt64.toNat) issued
  rw [← List.getElem?_map, tracks.numbered, Option.map_some] at number
  obtain ⟨bound, value⟩ := List.getElem?_eq_some_iff.mp number
  rw [← value, List.getElem_range', Nat.one_mul, Nat.add_comm]

theorem lifecycle_destroyed :
    let ops : List Op := [.createFrom stopping none, .create [] none, .createFrom stopping none,
      .destroy 1, .destroy 1, .call 2 none "run" [], .call 1 none "run" []]
    ∃ r₀, create {} = .ok r₀ ∧ issuedBy (r₀.trace ops) = [1, 2] ∧
      destroyedBy (r₀.trace ops) = [1] ∧ (r₀.after ops).size = 1 ∧
      (issuedBy (r₀.trace ops)).length < 2 ^ 64 ∧ Lifecycle (r₀.trace ops) (r₀.after ops) := by
  intro ops
  refine ⟨_, rfl, rfl, rfl, rfl, ?_, ?_⟩
  · show 2 < 2 ^ 64
    decide
  · exact lifecycle (s := {}) rfl ops (show 2 < 2 ^ 64 by decide)

end ModuleHost.Registry
