import Mathlib.Tactic
import ModuleHost.Boundary.Slots
import ModuleHost.Proofs.Except
import ModuleHost.Proofs.List
import ModuleHost.Proofs.Value.Bytes

namespace ModuleHost.Boundary

theorem size_le (kind : Value.Kind) : kind.size ≤ 16 := by
  cases kind <;> decide

namespace Cell

theorem ofBytes_take (c : Cell) (kind : Value.Kind) :
    Value.ofBytes kind (c.toList.take kind.size) = .ok (c.read kind) := by
  have length : (c.toList.take kind.size).length = kind.size := by
    rw [List.length_take, Vector.length_toList]
    exact Nat.min_eq_left (size_le kind)
  rw [Value.ofBytes, if_pos length, read]

theorem toList_write (c : Cell) {bytes : List UInt8} (fits : bytes.length ≤ 16) :
    (c.write bytes).toList = bytes ++ c.toList.drop bytes.length := by
  rw [write, Vector.toList_ofFn]
  refine List.ext_getElem ?_ fun k inside _ => ?_
  · simp
    omega
  · rw [List.getElem_ofFn]
    by_cases early : k < bytes.length
    · simp [early]
    · rw [List.getElem_append_right (by omega), List.getElem_drop]
      have place : bytes.length + (k - bytes.length) = k := by omega
      simp [early, place, Vector.get]

end Cell

namespace PointerArray

variable {a a' : PointerArray} {s : Signature} {e : Failure}

def slot (a : PointerArray) (k : Nat) : Option Cell :=
  (a.getD []).getD k none

/-- The array is there, unless no pointer is needed. -/
def Covers (a : PointerArray) (s : Signature) : Prop :=
  a ≠ none ∨ s.pointerCount = 0

theorem pointers_eq_ok {cells : List (Option Cell)} :
    a.pointers s = .ok cells ↔ a.Covers s ∧ cells = (List.range s.pointerCount).map a.slot := by
  unfold pointers Covers
  by_cases none : s.pointerCount = 0
  · simp [none, eq_comm]
  · cases a with
    | none => simp [none]
    | some listed =>
      rw [if_neg none]
      exact ⟨fun same => ⟨.inl nofun, (Except.ok.inj same).symm⟩, fun ⟨_, same⟩ => same ▸ rfl⟩

theorem pointers_eq_error :
    a.pointers s = .error e ↔
      ¬ a.Covers s ∧
        e = .invalidArgument ("`args` must not be null for signature " ++ s.write) := by
  unfold pointers Covers
  by_cases none : s.pointerCount = 0
  · simp [none]
  · cases a with
    | none => simp [none, eq_comm]
    | some listed => simp [none]

/-- Values are what the first bytes of the slots stand for. -/
def Reads (a : PointerArray) (kinds : List Value.Kind) (values : List Value) : Prop :=
  values.length = kinds.length ∧ ∀ (k : Nat) kind, kinds[k]? = some kind → ∃ c v,
    a.slot k = some c ∧ values[k]? = some v ∧
      Value.ofBytes kind (c.toList.take kind.size) = .ok v

theorem readFrom_eq_ok {index : Nat} {kinds : List Value.Kind} {cells : List (Option Cell)}
    {values : List Value} (enough : kinds.length ≤ cells.length) :
    readFrom index kinds cells = .ok values ↔
      values.length = kinds.length ∧ ∀ (k : Nat) kind, kinds[k]? = some kind → ∃ c : Cell,
        cells[k]? = some (some c) ∧ values[k]? = some (c.read kind) := by
  induction kinds generalizing index cells values with
  | nil => simp [readFrom, eq_comm]
  | cons kind kinds ih =>
    cases cells with
    | nil => simp at enough
    | cons cell cells =>
      have rest : kinds.length ≤ cells.length := Nat.le_of_succ_le_succ enough
      rw [forall_getElem?_cons]
      cases cell with
      | none => simp [readFrom]
      | some c =>
        simp only [readFrom, map_eq_ok, ih rest]
        cases values with
        | nil => simp
        | cons v vs =>
          constructor
          · rintro ⟨vs', ⟨length, others⟩, same⟩
            obtain ⟨rfl, rfl⟩ := List.cons.inj same
            exact ⟨congrArg (· + 1) length, ⟨c, rfl, rfl⟩, others⟩
          · rintro ⟨length, ⟨c', points, value⟩, others⟩
            obtain rfl := Option.some.inj (Option.some.inj points)
            obtain rfl := Option.some.inj value
            exact ⟨vs, ⟨Nat.succ.inj length, others⟩, rfl⟩

theorem readFrom_eq_error {index : Nat} {kinds : List Value.Kind} {cells : List (Option Cell)}
    (enough : kinds.length ≤ cells.length) (fails : readFrom index kinds cells = .error e) :
    ∃ (k : Nat) (kind : Value.Kind), kinds[k]? = some kind ∧ cells[k]? = some none ∧
      (∀ j, j < k → cells[j]? ≠ some none) ∧
      e = .invalidArgument
        ("parameter " ++ toString (index + k) ++ " (" ++ kind.name ++ ") pointer is null") := by
  induction kinds generalizing index cells with
  | nil => cases fails
  | cons kind kinds ih =>
    cases cells with
    | nil => simp at enough
    | cons cell cells =>
      have rest : kinds.length ≤ cells.length := Nat.le_of_succ_le_succ enough
      cases cell with
      | none => exact ⟨0, kind, rfl, rfl, nofun, (Except.error.inj fails).symm⟩
      | some c =>
        obtain ⟨k, kind', isKind, null, first, same⟩ := ih rest (map_eq_error.mp fails)
        refine ⟨k + 1, kind', isKind, null, fun j before => ?_, ?_⟩
        · cases j with
          | zero => simp
          | succ j => exact first j (Nat.lt_of_succ_lt_succ before)
        · rw [same, Nat.add_assoc, Nat.add_comm 1 k]

theorem getElem?_pointers {k : Nat} (bound : k < s.pointerCount) :
    ((List.range s.pointerCount).map a.slot)[k]? = some (a.slot k) := by
  rw [List.getElem?_map, List.getElem?_range bound, Option.map_some]

theorem lt_pointerCount {k : Nat} {kind : Value.Kind} (isKind : s.params[k]? = some kind) :
    k < s.pointerCount :=
  Nat.lt_add_right _ (List.getElem?_eq_some_iff.mp isKind).1

theorem params_le_pointers :
    s.params.length ≤ ((List.range s.pointerCount).map a.slot).length := by
  simp [Signature.pointerCount]

theorem arguments_eq_ok {values : List Value} :
    a.arguments s = .ok values ↔ a.Covers s ∧ a.Reads s.params values := by
  simp only [arguments, bind_eq_ok, pointers_eq_ok]
  constructor
  · rintro ⟨_, ⟨covers, rfl⟩, reads⟩
    obtain ⟨length, each⟩ := (readFrom_eq_ok params_le_pointers).mp reads
    refine ⟨covers, length, fun k kind isKind => ?_⟩
    obtain ⟨c, points, value⟩ := each k kind isKind
    rw [getElem?_pointers (lt_pointerCount isKind)] at points
    exact ⟨c, c.read kind, Option.some.inj points, value, c.ofBytes_take kind⟩
  · rintro ⟨covers, length, each⟩
    refine ⟨_, ⟨covers, rfl⟩, (readFrom_eq_ok params_le_pointers).mpr ⟨length, ?_⟩⟩
    intro k kind isKind
    obtain ⟨c, v, points, value, reads⟩ := each k kind isKind
    obtain rfl := Except.ok.inj ((c.ofBytes_take kind).symm.trans reads)
    exact ⟨c, (getElem?_pointers (lt_pointerCount isKind)).trans (congrArg some points), value⟩

theorem arguments_eq_error (fails : a.arguments s = .error e) :
    (¬ a.Covers s ∧ e = .invalidArgument ("`args` must not be null for signature " ++ s.write)) ∨
      a.Covers s ∧ ∃ (k : Nat) (kind : Value.Kind), s.params[k]? = some kind ∧ a.slot k = none ∧
        (∀ j, j < k → a.slot j ≠ none) ∧
        e = .invalidArgument
          ("parameter " ++ toString k ++ " (" ++ kind.name ++ ") pointer is null") := by
  simp only [arguments, bind_eq_error, pointers_eq_error, pointers_eq_ok] at fails
  rcases fails with absent | ⟨_, ⟨covers, rfl⟩, fails⟩
  · exact .inl absent
  · obtain ⟨k, kind, isKind, null, first, same⟩ := readFrom_eq_error params_le_pointers fails
    have bound := lt_pointerCount isKind
    rw [getElem?_pointers bound] at null
    refine .inr ⟨covers, k, kind, isKind, Option.some.inj null, fun j before => ?_, ?_⟩
    · have reads := first j before
      rw [getElem?_pointers (before.trans bound)] at reads
      exact fun null => reads (congrArg some null)
    · rw [same, Nat.zero_add]

def HasRoom (a : PointerArray) (s : Signature) : Prop :=
  ∀ j, j < s.results.length → a.slot (s.params.length + j) ≠ none

theorem drop_pointers :
    ((List.range s.pointerCount).map a.slot).drop s.params.length =
      (List.range s.results.length).map fun j => a.slot (s.params.length + j) := by
  rw [Signature.pointerCount, List.range_add, List.map_append, List.drop_left' (by simp),
    List.map_map]
  rfl

theorem requireRoom_eq_ok : a.requireRoom s = .ok () ↔ a.Covers s ∧ a.HasRoom s := by
  simp only [requireRoom, bind_eq_ok, pointers_eq_ok]
  constructor
  · rintro ⟨_, ⟨covers, rfl⟩, passes⟩
    rw [drop_pointers] at passes
    split at passes
    · cases passes
    · rename_i found
      refine ⟨covers, fun j bound null => ?_⟩
      have points := List.findIdx?_eq_none_iff.mp found none
        (List.mem_map.mpr ⟨j, List.mem_range.mpr bound, null⟩)
      cases points
  · rintro ⟨covers, room⟩
    refine ⟨_, ⟨covers, rfl⟩, ?_⟩
    have found : ((List.range s.results.length).map fun j =>
        a.slot (s.params.length + j)).findIdx? Option.isNone = none := by
      rw [List.findIdx?_eq_none_iff]
      intro p member
      obtain ⟨j, bound, rfl⟩ := List.mem_map.mp member
      exact Option.isNone_eq_false_iff.mpr
        (Option.isSome_iff_ne_none.mpr (room j (List.mem_range.mp bound)))
    rw [drop_pointers, found]
    rfl

theorem requireRoom_eq_error (fails : a.requireRoom s = .error e) (covers : a.Covers s) :
    ∃ j, j < s.results.length ∧ a.slot (s.params.length + j) = none ∧
      (∀ i, i < j → a.slot (s.params.length + i) ≠ none) ∧
      e = .invalidArgument ("result " ++ toString j ++ " pointer is null") := by
  simp only [requireRoom, bind_eq_error, pointers_eq_error, pointers_eq_ok] at fails
  rcases fails with ⟨absent, -⟩ | ⟨_, ⟨-, rfl⟩, fails⟩
  · exact absurd covers absent
  · rw [drop_pointers] at fails
    split at fails
    · rename_i j found
      obtain ⟨bound, null, first⟩ := List.findIdx?_eq_some_iff_getElem.mp found
      simp only [List.length_map, List.length_range] at bound
      simp only [List.getElem_map, List.getElem_range, Option.isNone_iff_eq_none] at null first
      exact ⟨j, bound, null, first, (Except.error.inj fails).symm⟩
    · cases fails

/-- Each result is at the start of its storage, and nothing else has changed. -/
structure Delivered (a : PointerArray) (s : Signature) (results : List Value)
    (a' : PointerArray) : Prop where
  shape : a'.map List.length = a.map List.length
  written : ∀ (j : Nat) v, results[j]? = some v → ∃ c c' : Cell,
    a.slot (s.params.length + j) = some c ∧ a'.slot (s.params.length + j) = some c' ∧
      c'.toList = v.toBytes ++ c.toList.drop v.toBytes.length
  others : ∀ k, k < s.params.length ∨ s.params.length + results.length ≤ k →
    a'.slot k = a.slot k

theorem length_writeInto (values : List Value) (cells : List (Option Cell)) :
    (writeInto values cells).length = cells.length := by
  induction values generalizing cells with
  | nil => rfl
  | cons v vs ih => cases cells <;> simp [writeInto, ih]

theorem getElem?_writeInto (values : List Value) (cells : List (Option Cell)) (k : Nat) :
    (writeInto values cells)[k]? =
      cells[k]?.map fun p => (values[k]?.elim p fun v => p.map (·.write v.toBytes)) := by
  induction values generalizing cells k with
  | nil => simp [writeInto]
  | cons v vs ih =>
    cases cells with
    | nil => simp [writeInto]
    | cons p ps =>
      cases k with
      | zero => simp [writeInto]
      | succ k => simp [writeInto, ih]

theorem slot_deliver (cells : List (Option Cell)) (first : Nat) (results : List Value) (k : Nat) :
    slot (some (cells.take first ++ writeInto results (cells.drop first))) k =
      if k < first then slot (some cells) k
      else
        results[k - first]?.elim (slot (some cells) k) fun v =>
          (slot (some cells) k).map (·.write v.toBytes) := by
  simp only [slot, Option.getD_some, List.getD_eq_getElem?_getD, List.getElem?_append,
    List.length_take, List.getElem?_take, getElem?_writeInto, List.getElem?_drop]
  by_cases listed : k < cells.length
  · by_cases before : k < first
    · rw [if_pos (lt_min before listed), if_pos before, if_pos before]
    · have place : first + (k - min first cells.length) = k := by omega
      have index : k - min first cells.length = k - first := by omega
      rw [if_neg (by omega), if_neg before, place, index, List.getElem?_eq_getElem listed]
      cases results[k - first]? <;> rfl
  · have beyond : cells[k]? = none := List.getElem?_eq_none (by omega)
    have beyond' : cells[first + (k - min first cells.length)]? = none :=
      List.getElem?_eq_none (by omega)
    rw [if_neg (by omega), beyond, beyond']
    cases results[k - first]? <;> simp

theorem results_eq_nil_of_room (room : HasRoom none s) : s.results = [] := by
  rw [← List.length_eq_zero_iff]
  by_contra positive
  exact room 0 (Nat.pos_of_ne_zero positive) rfl

theorem deliver_of_room (covers : a.Covers s) (room : a.HasRoom s) (results : List Value) :
    ∃ a', a.deliver s results = .ok a' ∧ a.Delivered s (results.take s.results.length) a' := by
  have passes := requireRoom_eq_ok.mpr ⟨covers, room⟩
  refine ⟨_, by rw [deliver, passes]; rfl, ?_⟩
  have count : (results.take s.results.length).length ≤ s.results.length := List.length_take_le ..
  generalize results.take s.results.length = results at count
  cases a with
  | none =>
    rw [results_eq_nil_of_room room, List.length_nil, Nat.le_zero, List.length_eq_zero_iff] at count
    subst count
    exact ⟨rfl, nofun, fun _ _ => rfl⟩
  | some cells =>
    refine ⟨?_, fun j v value => ?_, fun k outside => ?_⟩
    · rw [Option.map_some, Option.map_some, List.length_append, length_writeInto,
        ← List.length_append, List.take_append_drop, Option.map_some]
    · obtain ⟨bound, -⟩ := List.getElem?_eq_some_iff.mp value
      obtain ⟨c, points⟩ := Option.ne_none_iff_exists'.mp (room j (bound.trans_le count))
      refine ⟨c, c.write v.toBytes, points, ?_, c.toList_write ?_⟩
      · rw [Option.map_some, slot_deliver, if_neg (by omega), Nat.add_sub_cancel_left, value,
          points]
        rfl
      · rw [Value.length_toBytes]
        exact size_le _
    · rw [Option.map_some, slot_deliver]
      rcases outside with before | after
      · rw [if_pos before]
      · rw [if_neg (by omega), List.getElem?_eq_none (by omega)]
        rfl

theorem deliver_eq_ok {results : List Value} (covers : a.Covers s) (room : a.HasRoom s)
    (count : results.length = s.results.length) :
    ∃ a', a.deliver s results = .ok a' ∧ a.Delivered s results a' := by
  have all : results.take s.results.length = results := by rw [← count, List.take_length]
  simpa only [all] using deliver_of_room covers room results

variable {values values' : List Value} {first : Nat}

def Holds (a : PointerArray) (first : Nat) (values : List Value) : Prop :=
  ∀ (k : Nat) v, values[k]? = some v → ∃ c, a.slot (first + k) = some c ∧ v.toBytes <+: c.toList

theorem Holds.unique (holds : a.Holds first values) (holds' : a.Holds first values')
    (kinds : values.map Value.kind = values'.map Value.kind) : values = values' := by
  have length : values.length = values'.length := by
    simpa using congrArg List.length kinds
  apply List.ext_getElem length
  intro k inside inside'
  obtain ⟨c, points, starts⟩ := holds k _ (List.getElem?_eq_getElem inside)
  obtain ⟨c', points', starts'⟩ := holds' k _ (List.getElem?_eq_getElem inside')
  cases points.symm.trans points'
  have kind : values[k].kind = values'[k].kind := by
    simpa [inside, inside'] using congrArg (·[k]?) kinds
  apply Value.eq_of_toBytes kind
  rw [List.prefix_iff_eq_take.mp starts, List.prefix_iff_eq_take.mp starts', Value.length_toBytes,
    Value.length_toBytes, kind]

theorem Holds.reads (holds : a.Holds 0 values) (kinds : values.map Value.kind = s.params) :
    a.Reads s.params values := by
  refine ⟨by rw [← kinds, List.length_map], fun k kind isKind => ?_⟩
  rw [← kinds, List.getElem?_map, Option.map_eq_some_iff] at isKind
  obtain ⟨v, value, rfl⟩ := isKind
  obtain ⟨c, points, starts⟩ := holds k v value
  rw [Nat.zero_add] at points
  refine ⟨c, v, points, value, ?_⟩
  rw [← v.length_toBytes, ← List.prefix_iff_eq_take.mp starts]
  exact v.ofBytes_toBytes

theorem Delivered.holds (delivered : a.Delivered s values a') :
    a'.Holds s.params.length values := by
  intro k v value
  obtain ⟨c, c', -, points, bytes⟩ := delivered.written k v value
  exact ⟨c', points, _, bytes.symm⟩

theorem covers_of_room (reads : a.Reads s.params values) (room : a.HasRoom s) : a.Covers s := by
  by_contra absent
  obtain ⟨null, needed⟩ := not_or.mp absent
  rw [not_not] at null
  subst null
  cases params : s.params with
  | cons kind kinds =>
    obtain ⟨c, v, points, -⟩ := reads.2 0 kind (by rw [params]; rfl)
    cases points
  | nil =>
    apply room 0 _ rfl
    rw [Signature.pointerCount, params] at needed
    simp only [List.length_nil, Nat.zero_add] at needed
    exact Nat.pos_of_ne_zero needed

end PointerArray

end ModuleHost.Boundary
