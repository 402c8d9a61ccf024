import Mathlib.Tactic
import ModuleHost.Proofs.Except
import ModuleHost.Registry

namespace ModuleHost.Registry

variable {r : Registry} {h j : Handle} {i : Instance}

theorem contains_iff : r.contains h = true ↔ ∃ i, r.get? h = some i :=
  Option.isSome_iff_exists

theorem contains_eq_false : r.contains h = false ↔ r.get? h = none :=
  Option.isSome_eq_false_iff.trans Option.isNone_iff_eq_none

theorem mem_keys : h ∈ r.instances.keys ↔ r.contains h = true :=
  r.instances.mem_keys h

theorem size_eq_length : r.size = r.instances.keys.length :=
  r.instances.length_keys.symm

theorem get_eq_ok : r.get h = .ok i ↔ r.get? h = some i := by
  unfold get
  cases r.get? h <;> simp

theorem get_eq_error {e : Failure} :
    r.get h = .error e ↔ r.contains h = false ∧ e = .invalidHandle h := by
  rw [contains_eq_false]
  unfold get
  cases r.get? h <;> simp [eq_comm]

theorem signature_of_live {interface : Option String} {name : String} (live : r.get? h = some i) :
    r.signature h interface name = i.signature interface name := by
  rw [signature, get_eq_ok.mpr live]
  rfl

theorem signature_of_dead {interface : Option String} {name : String} (dead : r.get? h = none) :
    r.signature h interface name = .error (.invalidHandle h) := by
  rw [signature, get_eq_error.mpr ⟨contains_eq_false.mpr dead, rfl⟩]
  rfl

theorem get?_set : (r.set h i).get? j = if j = h then some i else r.get? j :=
  r.instances.get?_put h j i

theorem set_of_get? (live : r.get? h = some i) : r.set h i = r := by
  rw [set, Data.Keyed.put_get? live]

section Use

variable {α : Type} {act : Instance → Except Failure α × Instance}

theorem use_of_live (live : r.get? h = some i) :
    r.use h act = ((act i).1, r.set h (act i).2) := by
  simp only [use, get_eq_ok.mpr live]

theorem use_of_dead (dead : r.get? h = none) : r.use h act = (.error (.invalidHandle h), r) := by
  simp only [use, get_eq_error.mpr ⟨contains_eq_false.mpr dead, rfl⟩]

end Use

theorem call_of_live {interface : Option String} {name : String} {args : List Value}
    (live : r.get? h = some i) :
    r.call h interface name args =
      ((i.call interface name args).1, r.set h (i.call interface name args).2) :=
  use_of_live live

/-- The same handles are live, in the same order, and as many have been handed out. -/
structure SameHandles (r r' : Registry) : Prop where
  keys : r'.instances.keys = r.instances.keys
  issued : r'.issued = r.issued

theorem SameHandles.refl (r : Registry) : r.SameHandles r :=
  ⟨rfl, rfl⟩

theorem SameHandles.contains {r' : Registry} (same : r.SameHandles r') (h : Handle) :
    r'.contains h = r.contains h := by
  rw [Bool.eq_iff_iff, ← mem_keys, ← mem_keys, same.keys]

theorem sameHandles_set (live : r.contains h = true) (i : Instance) : r.SameHandles (r.set h i) :=
  ⟨(r.instances.keys_put h i).trans (if_pos live), rfl⟩

theorem sameHandles_use {α : Type} (r : Registry) (h : Handle)
    (act : Instance → Except Failure α × Instance) : r.SameHandles (r.use h act).2 := by
  cases found : r.get? h with
  | none =>
    rw [use_of_dead found]
    exact .refl r
  | some i =>
    rw [use_of_live found]
    exact sameHandles_set (contains_iff.mpr ⟨i, found⟩) _

theorem sameHandles_writeBytes {offset : Nat} {bytes : List UInt8} {r' : Registry}
    (writes : r.writeBytes h offset bytes = .ok r') : r.SameHandles r' := by
  simp only [writeBytes, bind_eq_ok, get_eq_ok] at writes
  obtain ⟨i, found, i', -, same⟩ := writes
  cases same
  exact sameHandles_set (contains_iff.mpr ⟨i, found⟩) i'

theorem freshHandle_ne_zero (r : Registry) : r.freshHandle ≠ 0 := by
  simp only [freshHandle]
  split
  · decide
  · assumption

theorem toNat_freshHandle (room : r.issued + 1 < 2 ^ 64) : r.freshHandle.toNat = r.issued + 1 := by
  have number : (UInt64.ofNat (r.issued + 1)).toNat = r.issued + 1 := by
    rw [UInt64.toNat_ofNat']
    exact Nat.mod_eq_of_lt room
  have positive : UInt64.ofNat (r.issued + 1) ≠ 0 := by
    intro zero
    rw [zero] at number
    cases number
  rw [freshHandle, if_neg positive, number]

theorem contains_enroll (pool : Pool) :
    (r.enroll i pool).contains j = true ↔ r.freshHandle = j ∨ r.contains j = true := by
  show ((r.instances.put r.freshHandle i).get? j).isSome = true ↔ _
  rw [Data.Keyed.get?_put]
  by_cases same : j = r.freshHandle
  · simp [same]
  · simp [same, Ne.symm same, contains, get?]

theorem createFrom_eq_ok {m : GuestModule} {fuel : Option UInt64} {r' : Registry} :
    r.createFrom m fuel = .ok (h, r') ↔
      ∃ i pool, Instance.create r.engine r.limits r.pool m fuel = .ok (i, pool) ∧
        h = r.freshHandle ∧ r' = r.enroll i pool := by
  simp only [createFrom, bind_eq_ok, Prod.exists]
  constructor
  · rintro ⟨i, pool, created, same⟩
    cases same
    exact ⟨i, pool, created, rfl, rfl⟩
  · rintro ⟨i, pool, created, rfl, rfl⟩
    exact ⟨i, pool, created, rfl⟩

theorem createOf_eq_ok {bytes : List UInt8} {fuel : Option UInt64} {r' : Registry} :
    r.createOf bytes fuel = .ok (h, r') ↔
      ∃ m, GuestModule.ofBytes r.engine bytes = .ok m ∧ r.createFrom m fuel = .ok (h, r') :=
  bind_eq_ok

theorem destroy_eq_ok {r' : Registry} :
    r.destroy h = .ok r' ↔
      r.contains h = true ∧
        r' = { r with instances := r.instances.erase h, pool := r.pool.release } := by
  unfold destroy
  cases r.contains h with
  | true => exact ⟨fun same => ⟨rfl, (Except.ok.inj same).symm⟩, fun ⟨_, same⟩ => same ▸ rfl⟩
  | false => simp

theorem destroy_eq_error {e : Failure} :
    r.destroy h = .error e ↔ r.contains h = false ∧ e = .invalidHandle h := by
  unfold destroy
  cases r.contains h with
  | true => simp
  | false => exact ⟨fun same => ⟨rfl, (Except.error.inj same).symm⟩, fun ⟨_, same⟩ => same ▸ rfl⟩

theorem contains_erase (pool : Pool) :
    ({ r with instances := r.instances.erase h, pool := pool } : Registry).contains j = true ↔
      r.contains j = true ∧ h ≠ j := by
  show ((r.instances.erase h).get? j).isSome = true ↔ _
  rw [Data.Keyed.get?_erase]
  by_cases same : j = h
  · simp [same]
  · simp [same, Ne.symm same, contains, get?]

def stopping : GuestModule where
  module := {
    types := #[⟨[], []⟩], imports := [], funcs := #[⟨0, [], [.unreachable]⟩], tables := #[]
    memories := #[], globals := #[], exports := [⟨"run", .func 0⟩], start := none, elems := #[]
    dataCount := none, datas := #[] }
  fingerprint := ""

end ModuleHost.Registry
