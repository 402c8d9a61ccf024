import ModuleHost.Proofs.Boundary.Slots

namespace ModuleHost

def Value.Kind.type : Value.Kind → Wasm.ValType
  | i32 => .i32
  | i64 => .i64
  | f32 => .f32
  | f64 => .f64
  | v128 => .v128

theorem Value.ofOperand_bits (v : Value) : ofOperand v.kind.type v.bits = some v := by
  have number : Kind.ofType v.kind.type = some v.kind := by cases v <;> rfl
  rw [ofOperand, number, Option.map_some, v.ofBits_bits]

namespace Boundary

namespace PointerArray

variable {a a' : PointerArray} {s : Signature} {kinds : List Value.Kind} {values : List Value}
  {e : Failure}

theorem ext_slots (shape : a'.map List.length = a.map List.length)
    (slots : ∀ k, a'.slot k = a.slot k) : a' = a := by
  cases a with
  | none => exact Option.map_eq_none_iff.mp shape
  | some cells =>
    obtain ⟨cells', rfl, length⟩ := Option.map_eq_some_iff.mp shape
    refine congrArg some (List.ext_getElem length fun k inside' inside => ?_)
    simpa [slot, inside, inside'] using slots k

theorem covers_of_pointers (points : ∀ k, k < s.pointerCount → a.slot k ≠ none) : a.Covers s := by
  by_cases needed : s.pointerCount = 0
  · exact .inr needed
  · refine .inl fun null => points 0 (Nat.pos_of_ne_zero needed) ?_
    rw [null]
    rfl

theorem exists_arguments (points : ∀ k, k < kinds.length → a.slot k ≠ none) :
    ∃ values, a.arguments ⟨kinds, []⟩ = .ok values := by
  cases answers : a.arguments ⟨kinds, []⟩ with
  | ok values => exact ⟨values, rfl⟩
  | error e =>
    rcases arguments_eq_error answers with ⟨absent, -⟩ | ⟨-, k, kind, isKind, null, -⟩
    · exact absurd (covers_of_pointers (s := ⟨kinds, []⟩) points) absent
    · exact absurd null (points k (List.getElem?_eq_some_iff.mp isKind).1)

theorem exists_deliver (points : ∀ k, k < kinds.length → a.slot k ≠ none)
    (count : values.length = kinds.length) :
    ∃ a', a.deliver ⟨[], kinds⟩ values = .ok a' ∧ a.Delivered ⟨[], kinds⟩ values a' := by
  refine deliver_eq_ok (covers_of_pointers fun k bound => points k ?_) (fun j bound => ?_) count
  · rwa [Signature.pointerCount, List.length_nil, Nat.zero_add] at bound
  · rw [List.length_nil, Nat.zero_add]
    exact points j bound

theorem Delivered.arguments (delivered : a.Delivered ⟨[], kinds⟩ values a')
    (same : values.map Value.kind = kinds) : a'.arguments ⟨kinds, []⟩ = .ok values := by
  have reads := Holds.reads (s := ⟨kinds, []⟩) delivered.holds same
  exact arguments_eq_ok.mpr ⟨covers_of_room reads nofun, reads⟩

theorem Delivered.eq_of_reads (delivered : a.Delivered ⟨[], kinds⟩ values a')
    (reads : a.Reads kinds values) : a' = a := by
  refine ext_slots delivered.shape fun k => ?_
  cases value : values[k]? with
  | none =>
    refine delivered.others k (.inr ?_)
    rw [List.length_nil, Nat.zero_add]
    exact List.getElem?_eq_none_iff.mp value
  | some v =>
    obtain ⟨bound, -⟩ := List.getElem?_eq_some_iff.mp value
    obtain ⟨c, v', points, value', was⟩ :=
      reads.2 k _ (List.getElem?_eq_getElem (reads.1 ▸ bound))
    obtain rfl := Option.some.inj (value.symm.trans value')
    obtain ⟨c', c'', points', points'', bytes⟩ := delivered.written k v value
    rw [List.length_nil, Nat.zero_add] at points' points''
    obtain rfl := Option.some.inj (points.symm.trans points')
    obtain ⟨kind, begins⟩ := Value.ofBytes_eq_ok.mp was
    have unchanged : c''.toList = c.toList := by
      rw [bytes, v.length_toBytes, kind, begins, List.take_append_drop]
    rw [points, points'', Vector.toList_inj.mp unchanged]

/-- Why a call has no room for its results. The first result without storage is named. -/
inductive NoRoom (a : PointerArray) (s : Signature) : Failure → Prop
  | nullArray (null : a = none) (needed : s.pointerCount ≠ 0) :
    NoRoom a s (.invalidArgument ("`args` must not be null for signature " ++ s.write))
  | nullResult {j : Nat} (present : a ≠ none) (isResult : j < s.results.length)
    (null : a.slot (s.params.length + j) = none)
    (first : ∀ i, i < j → a.slot (s.params.length + i) ≠ none) :
    NoRoom a s (.invalidArgument ("result " ++ toString j ++ " pointer is null"))

theorem noRoom_of_error (fails : a.requireRoom s = .error e) : a.NoRoom s e := by
  by_cases covers : a.Covers s
  · obtain ⟨j, isResult, null, first, rfl⟩ := requireRoom_eq_error fails covers
    refine .nullResult ?_ isResult null first
    rintro rfl
    rcases covers with present | unneeded
    · exact present rfl
    · rw [Signature.pointerCount] at unneeded
      omega
  · rw [requireRoom, pointers_eq_error.mpr ⟨covers, rfl⟩] at fails
    cases fails
    obtain ⟨null, needed⟩ := not_or.mp covers
    exact .nullArray (not_not.mp null) needed

theorem not_noRoom_of_ok (passes : a.requireRoom s = .ok ()) : ¬ a.NoRoom s e := by
  obtain ⟨covers, room⟩ := requireRoom_eq_ok.mp passes
  intro missing
  cases missing with
  | nullArray null needed => exact covers.elim (absurd null) needed
  | nullResult _ isResult null => exact room _ isResult null

end PointerArray

/-- A computation on the storage of the caller. What it has written stays when it fails. -/
abbrev InPlace := EStateM Failure PointerArray

namespace InPlace

def requireRoom (s : Signature) : InPlace Unit := do
  match (← get).requireRoom s with
  | .ok _ => return ()
  | .error e => throw e

def write (v : Value) (k : Nat) : InPlace Unit :=
  modify (Option.map (·.modify k (Option.map (·.write v.toBytes))))

def writeEach (values : List Value) (slots : List Nat) : InPlace Unit :=
  (values.zip slots).forM fun (v, k) => write v k

def deliver (s : Signature) (results : List Value) : InPlace Unit := do
  requireRoom s
  writeEach results (List.range' s.params.length s.results.length)

variable {a : PointerArray} {s : Signature} {e : Failure}

theorem run_bind_ok {x : InPlace Unit} {f : Unit → InPlace Unit} {a' : PointerArray}
    (runs : x.run a = .ok () a') : (x >>= f).run a = (f ()).run a' := by
  rw [EStateM.run] at runs
  simp only [EStateM.run, bind, EStateM.bind, runs]

theorem run_bind_error {x : InPlace Unit} {f : Unit → InPlace Unit} {a' : PointerArray}
    (fails : x.run a = .error e a') : (x >>= f).run a = .error e a' := by
  rw [EStateM.run] at fails
  simp only [EStateM.run, bind, EStateM.bind, fails]

theorem run_requireRoom (a : PointerArray) (s : Signature) :
    (requireRoom s).run a =
      match a.requireRoom s with
      | .ok () => .ok () a
      | .error e => .error e a := by
  have checks : requireRoom s a =
      (match a.requireRoom s with | .ok _ => pure () | .error e => throw e : InPlace Unit) a := rfl
  rw [EStateM.run, checks]
  cases a.requireRoom s <;> rfl

theorem writeInto_nil (cells : List (Option Cell)) : PointerArray.writeInto [] cells = cells := by
  simp [PointerArray.writeInto]

theorem take_append_writeInto_cons (v : Value) (vs : List Value) (cells : List (Option Cell))
    (k : Nat) :
    cells.take k ++ PointerArray.writeInto (v :: vs) (cells.drop k) =
      (cells.modify k (Option.map (·.write v.toBytes))).take (k + 1) ++
        PointerArray.writeInto vs
          ((cells.modify k (Option.map (·.write v.toBytes))).drop (k + 1)) := by
  by_cases listed : k < cells.length
  · rw [List.drop_modify_of_lt _ _ _ _ k.lt_succ_self, List.modify_eq_take_cons_drop listed,
      List.append_cons, List.take_left' (by simp [listed.le]), List.drop_eq_getElem_cons listed,
      PointerArray.writeInto, ← List.append_cons]
  · have beyond : cells.length ≤ k := Nat.le_of_not_lt listed
    rw [List.modify_eq_self beyond, List.take_of_length_le beyond, List.drop_of_length_le beyond,
      List.take_of_length_le (by omega), List.drop_of_length_le (by omega)]
    simp [PointerArray.writeInto]

theorem run_writeEach (values : List Value) (first count : Nat) (cells : List (Option Cell)) :
    (writeEach values (List.range' first count)).run (some cells) =
      .ok () (some (cells.take first ++
        PointerArray.writeInto (values.take count) (cells.drop first))) := by
  induction values generalizing first count cells with
  | nil =>
    rw [List.take_nil, writeInto_nil, List.take_append_drop]
    rfl
  | cons v vs ih =>
    cases count with
    | zero =>
      rw [List.take_zero, writeInto_nil, List.take_append_drop]
      rfl
    | succ count =>
      rw [List.take_succ_cons, take_append_writeInto_cons, ← ih]
      rfl

theorem run_deliver (a : PointerArray) (s : Signature) (results : List Value) :
    (deliver s results).run a =
      match a.deliver s results with
      | .ok a' => .ok () a'
      | .error e => .error e a := by
  have checks := run_requireRoom a s
  rw [PointerArray.deliver]
  cases passes : a.requireRoom s with
  | error e =>
    rw [passes] at checks
    exact run_bind_error checks
  | ok _ =>
    rw [passes] at checks
    rw [deliver, run_bind_ok checks]
    cases a with
    | some cells => exact run_writeEach results _ _ cells
    | none =>
      have empty := PointerArray.results_eq_nil_of_room (PointerArray.requireRoom_eq_ok.mp passes).2
      rw [empty, writeEach, List.length_nil, List.range'_zero, List.zip_nil_right]
      rfl

end InPlace

theorem native_round_trips :
    (∀ kind bytes, (∃ v, Value.ofBytes kind bytes = .ok v) ↔ bytes.length = kind.size) ∧
    (∀ kind bytes v, Value.ofBytes kind bytes = .ok v ↔ v.kind = kind ∧ v.toBytes = bytes) ∧
    (∀ v : Value, Value.ofOperand v.kind.type v.bits = some v) ∧
    ∀ (a : PointerArray) (kinds : List Value.Kind), (∀ k, k < kinds.length → a.slot k ≠ none) →
      (∀ values : List Value, values.map Value.kind = kinds →
        ∃ a', a.deliver ⟨[], kinds⟩ values = .ok a' ∧ a'.arguments ⟨kinds, []⟩ = .ok values) ∧
      ∃ values, a.arguments ⟨kinds, []⟩ = .ok values ∧ a.deliver ⟨[], kinds⟩ values = .ok a := by
  refine ⟨fun _ _ => Value.exists_ofBytes, fun _ _ _ => Value.ofBytes_eq_ok, Value.ofOperand_bits,
    fun a kinds points => ⟨fun values same => ?_, ?_⟩⟩
  · have count : values.length = kinds.length := by rw [← same, List.length_map]
    obtain ⟨a', delivers, delivered⟩ := PointerArray.exists_deliver points count
    exact ⟨a', delivers, delivered.arguments same⟩
  · obtain ⟨values, answers⟩ := PointerArray.exists_arguments points
    have reads := (PointerArray.arguments_eq_ok.mp answers).2
    obtain ⟨a', delivers, delivered⟩ := PointerArray.exists_deliver points reads.1
    obtain rfl := delivered.eq_of_reads reads
    exact ⟨values, answers, delivers⟩

theorem native_round_trips_nan :
    let a : PointerArray := some [some (.replicate 16 0xaa), some (.replicate 16 0xff), none]
    let values : List Value := [.f32 0x7fa00001, .f64 0x8000000000000000]
    (∀ k, k < 2 → a.slot k ≠ none) ∧
      ∃ a', a.deliver ⟨[], [.f32, .f64]⟩ values = .ok a' ∧
        a'.arguments ⟨[.f32, .f64], []⟩ = .ok values := by
  intro a values
  have points : ∀ k, k < 2 → a.slot k ≠ none := by decide
  exact ⟨points, (native_round_trips.2.2.2 a [.f32, .f64] points).1 values rfl⟩

theorem delivery_all_or_nothing (a : PointerArray) (s : Signature) (results : List Value) :
    (∃ e, a.NoRoom s e ∧
      a.requireRoom s = .error e ∧ (InPlace.requireRoom s).run a = .error e a ∧
      a.deliver s results = .error e ∧ (InPlace.deliver s results).run a = .error e a) ∨
    (∀ e, ¬ a.NoRoom s e) ∧
      a.requireRoom s = .ok () ∧ (InPlace.requireRoom s).run a = .ok () a ∧
      ∃ a', a.deliver s results = .ok a' ∧ (InPlace.deliver s results).run a = .ok () a' ∧
        a.Delivered s (results.take s.results.length) a' := by
  have checks := InPlace.run_requireRoom a s
  have writes := InPlace.run_deliver a s results
  cases passes : a.requireRoom s with
  | error e =>
    have fails : a.deliver s results = .error e := by
      rw [PointerArray.deliver, passes]
      rfl
    rw [passes] at checks
    rw [fails] at writes
    exact .inl ⟨e, PointerArray.noRoom_of_error passes, rfl, checks, fails, writes⟩
  | ok _ =>
    obtain ⟨covers, room⟩ := PointerArray.requireRoom_eq_ok.mp passes
    obtain ⟨a', delivers, delivered⟩ := PointerArray.deliver_of_room covers room results
    rw [passes] at checks
    rw [delivers] at writes
    exact .inr ⟨fun e => PointerArray.not_noRoom_of_ok passes, rfl, checks, a', delivers, writes,
      delivered⟩

end Boundary

end ModuleHost
