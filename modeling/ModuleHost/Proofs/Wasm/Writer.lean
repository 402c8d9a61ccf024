import Mathlib.Tactic
import ModuleHost.Proofs.Except
import ModuleHost.Wasm.Binary.Reader
import ModuleHost.Wasm.Binary.Writer

namespace ModuleHost.Wasm.Binary

/-- Whatever follows, the reader makes `a` of the bytes and leaves the rest. -/
def Reads (r : Reader α) (bytes : List UInt8) (a : α) : Prop :=
  ∀ rest, r (bytes ++ rest) = .ok (a, rest)

theorem reads_pure (a : α) : Reads (pure a) [] a :=
  fun _ => rfl

theorem Reads.bind {r : Reader α} {f : α → Reader β} {front back : List UInt8} {a : α} {b : β}
    (first : Reads r front a) (second : Reads (f a) back b) :
    Reads (r >>= f) (front ++ back) b := by
  intro rest
  rw [List.append_assoc]
  exact bind_eq_ok.mpr ⟨_, first _, second rest⟩

theorem Reads.bind_pure {r : Reader α} {f : α → β} {bytes : List UInt8} {a : α}
    (reads : Reads r bytes a) : Reads (r >>= fun x => pure (f x)) bytes (f a) := by
  rw [← List.append_nil bytes]
  exact reads.bind (reads_pure _)

theorem Reads.after_byte {f : UInt8 → Reader α} {b : UInt8} {bytes : List UInt8} {a : α}
    (reads : Reads (f b) bytes a) : Reads (byte >>= f) (b :: bytes) a := by
  have first : Reads byte [b] b := fun _ => rfl
  exact first.bind reads

theorem toNat_ofNat_of_lt {n : Nat} (small : n < 256) : (UInt8.ofNat n).toNat = n := by
  rw [UInt8.toNat_ofNat']
  exact Nat.mod_eq_of_lt small

theorem reads_unsignedGroups {groups bits n : Nat} (fits : n < 2 ^ bits) (positive : 0 < groups)
    (enough : bits ≤ 7 * groups) : Reads (unsignedGroups groups bits) (writeUnsigned n) n := by
  induction groups generalizing bits n with
  | zero => cases positive
  | succ groups ih =>
    unfold writeUnsigned
    split
    · rename_i last
      have value := toNat_ofNat_of_lt (n := n) (by omega)
      have small : UInt8.ofNat n < 0x80 := by
        rw [UInt8.lt_iff_toNat_lt, value]
        exact last
      apply Reads.after_byte
      rw [if_pos small, value, if_neg fun refused => absurd fits (Nat.not_lt_of_le refused.2)]
      exact reads_pure n
    · rename_i more
      have value := toNat_ofNat_of_lt (n := n % 0x80 + 0x80) (by omega)
      have large : ¬ UInt8.ofNat (n % 0x80 + 0x80) < 0x80 := by
        rw [UInt8.lt_iff_toNat_lt, value]
        exact Nat.not_lt_of_le (Nat.le_add_left _ _)
      have wide : 7 < bits := by
        by_contra narrow
        have few := Nat.pow_le_pow_right (n := 2) (by decide) (Nat.le_of_not_lt narrow)
        omega
      have whole : 2 ^ bits = 0x80 * 2 ^ (bits - 7) := by
        rw [show 0x80 = 2 ^ 7 from rfl, ← pow_add, Nat.add_sub_cancel' wide.le]
      have few : n / 0x80 < 2 ^ (bits - 7) := Nat.div_lt_of_lt_mul (whole ▸ fits)
      have high := ih few (by omega) (by omega)
      apply Reads.after_byte
      rw [if_neg large, value]
      have joined : n % 0x80 + 0x80 - 0x80 + 0x80 * (n / 0x80) = n := by omega
      have reads := high.bind_pure (f := fun high => n % 0x80 + 0x80 - 0x80 + 0x80 * high)
      rwa [joined] at reads

theorem reads_unsigned {bits n : Nat} (positive : 0 < bits) (fits : n < 2 ^ bits) :
    Reads (unsigned bits) (writeUnsigned n) n :=
  reads_unsignedGroups fits (by unfold groupsFor; omega) (by unfold groupsFor; omega)

theorem reads_signedGroups {groups bits : Nat} {n : Int} (low : -2 ^ (bits - 1) ≤ n)
    (high : n < 2 ^ (bits - 1)) (positive : 0 < groups) (enough : bits ≤ 7 * groups) :
    Reads (signedGroups groups bits) (writeSigned n) n := by
  induction groups generalizing bits n with
  | zero => cases positive
  | succ groups ih =>
    unfold writeSigned
    split
    · rename_i last
      have value := toNat_ofNat_of_lt (n := (n % 0x80).toNat) (by omega)
      have small : UInt8.ofNat (n % 0x80).toNat < 0x80 := by
        rw [UInt8.lt_iff_toNat_lt, value]
        show (n % 0x80).toNat < 0x80
        omega
      apply Reads.after_byte
      rw [if_pos small]
      have same : (if UInt8.ofNat (n % 0x80).toNat < 0x40 then
          ((UInt8.ofNat (n % 0x80).toNat).toNat : Int)
          else (UInt8.ofNat (n % 0x80).toNat).toNat - 0x80) = n := by
        simp only [UInt8.lt_iff_toNat_lt, value]
        show (if (n % 0x80).toNat < 0x40 then ((n % 0x80).toNat : Int)
          else (n % 0x80).toNat - 0x80) = n
        split <;> omega
      dsimp only
      rw [same, if_neg ?_]
      · exact reads_pure n
      · rintro ⟨-, refused | refused⟩
        · exact absurd low (Int.not_le_of_gt (by simpa using refused))
        · exact absurd high (Int.not_lt_of_ge (by simpa using refused))
    · rename_i more
      have value := toNat_ofNat_of_lt (n := (n % 0x80).toNat + 0x80) (by omega)
      have large : ¬ UInt8.ofNat ((n % 0x80).toNat + 0x80) < 0x80 := by
        rw [UInt8.lt_iff_toNat_lt, value]
        exact Nat.not_lt_of_le (Nat.le_add_left _ _)
      have wide : 7 < bits := by
        by_contra narrow
        have few : (2 : Int) ^ (bits - 1) ≤ 2 ^ 6 :=
          pow_le_pow_right₀ (by decide) (by omega)
        omega
      have whole : (2 : Int) ^ (bits - 1) = 0x80 * 2 ^ (bits - 7 - 1) := by
        rw [show (0x80 : Int) = 2 ^ 7 from rfl, ← pow_add]
        congr 1
        omega
      rw [whole] at low high
      have low : -2 ^ (bits - 7 - 1) ≤ n / 0x80 := by omega
      have high : n / 0x80 < 2 ^ (bits - 7 - 1) := by omega
      have rest := ih low high (by omega) (by omega)
      apply Reads.after_byte
      rw [if_neg large, value]
      have joined : (((n % 0x80).toNat + 0x80 - 0x80 : Nat) : Int) + 0x80 * (n / 0x80) = n := by
        omega
      have reads := rest.bind_pure
        (f := fun high => (((n % 0x80).toNat + 0x80 - 0x80 : Nat) : Int) + 0x80 * high)
      rwa [joined] at reads

theorem reads_signed {bits : Nat} {n : Int} (positive : 0 < bits) (low : -2 ^ (bits - 1) ≤ n)
    (high : n < 2 ^ (bits - 1)) : Reads (signed bits) (writeSigned n) n :=
  reads_signedGroups low high (by unfold groupsFor; omega) (by unfold groupsFor; omega)

theorem reads_replicate {item : Reader α} {write : α → List UInt8} {xs : List α}
    (each : ∀ x ∈ xs, Reads item (write x) x) :
    Reads (replicate item xs.length) (xs.flatMap write) xs := by
  induction xs with
  | nil => exact reads_pure []
  | cons x xs ih =>
    obtain ⟨first, others⟩ := List.forall_mem_cons.mp each
    exact first.bind ((ih others).bind_pure (f := (x :: ·)))

theorem length_le_flatMap {write : α → List UInt8} {xs : List α}
    (present : ∀ x ∈ xs, write x ≠ []) : xs.length ≤ (xs.flatMap write).length := by
  have each : ∀ n ∈ xs.map fun x => (write x).length, 1 ≤ n := by
    intro n member
    obtain ⟨x, isItem, rfl⟩ := List.mem_map.mp member
    exact List.length_pos_iff.mpr (present x isItem)
  simpa [List.length_flatMap] using List.length_le_sum_of_one_le _ each

/-- A vector announces how many items follow, none of which is empty. -/
theorem reads_vector {item : Reader α} {write : α → List UInt8} {xs : List α}
    (few : xs.length < 2 ^ 32) (present : ∀ x ∈ xs, write x ≠ [])
    (each : ∀ x ∈ xs, Reads item (write x) x) :
    Reads (vector item) (writeVector (xs.map write)) xs := by
  unfold writeVector
  rw [List.length_map, ← List.flatMap_def]
  refine (reads_unsigned (by decide) few).bind fun rest => ?_
  have enough : ¬ (xs.flatMap write ++ rest).length < xs.length := by
    have room := length_le_flatMap present
    rw [List.length_append]
    omega
  show (if (xs.flatMap write ++ rest).length < xs.length then refuse .unexpectedEnd
    else replicate item xs.length) (xs.flatMap write ++ rest) = _
  rw [if_neg enough]
  exact reads_replicate each rest

theorem reads_valType (t : ValType) : Reads valType [writeValType t] t := by
  cases t <;> exact fun rest => rfl

theorem reads_types {types : List ValType} (few : types.length < 2 ^ 32) :
    Reads (vector valType) (writeTypes types) types :=
  reads_vector few (fun _ _ => List.cons_ne_nil _ _) fun t _ => reads_valType t

theorem reads_funcType {t : FuncType} (params : t.params.length < 2 ^ 32)
    (results : t.results.length < 2 ^ 32) : Reads funcType (writeFuncType t) t := by
  have last := (reads_types results).bind_pure (f := fun results => FuncType.mk t.params results)
  exact .after_byte ((reads_types params).bind last)

theorem reads_limits {l : Limits} (least : l.min < 2 ^ 32) (most : ∀ n ∈ l.max, n < 2 ^ 32) :
    Reads limits (writeLimits l) l := by
  obtain ⟨min, max⟩ := l
  cases max with
  | none =>
    have reads := (reads_unsigned (by decide) least).bind_pure (f := fun min => Limits.mk min none)
    exact .after_byte reads
  | some max =>
    have last := (reads_unsigned (by decide) (most max rfl)).bind_pure
      (f := fun max => Limits.mk min (some max))
    exact .after_byte ((reads_unsigned (by decide) least).bind last)

theorem reads_tableType {t : TableType} (reference : t.element.isReference = true)
    (least : t.limits.min < 2 ^ 32) (most : ∀ n ∈ t.limits.max, n < 2 ^ 32) :
    Reads tableType (writeTableType t) t := by
  have element : Reads refType [writeValType t.element] t.element := by
    have accepted : Reads (if t.element.isReference then (pure t.element : Reader ValType)
        else refuse (.malformed "reference type")) [] t.element := by
      rw [if_pos reference]
      exact reads_pure _
    exact (reads_valType t.element).bind accepted
  have last := (reads_limits least most).bind_pure (f := fun l => TableType.mk t.element l)
  exact element.bind last

theorem reads_globalType (g : GlobalType) : Reads globalType (writeGlobalType g) g := by
  obtain ⟨value, isMutable⟩ := g
  cases isMutable <;> exact (reads_valType value).bind fun rest => rfl

end ModuleHost.Wasm.Binary
