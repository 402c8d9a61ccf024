import Mathlib.Tactic
import ModuleHost.Value.Basic

namespace ModuleHost

theorem length_littleEndian (count n : Nat) : (littleEndian count n).length = count := by
  induction count generalizing n with
  | zero => rfl
  | succ count ih => rw [littleEndian, List.length_cons, ih]

theorem ofLittleEndian_littleEndian {count n : Nat} (small : n < 256 ^ count) :
    ofLittleEndian (littleEndian count n) = n := by
  induction count generalizing n with
  | zero =>
    rw [pow_zero, Nat.lt_one_iff] at small
    exact small.symm
  | succ count ih =>
    have rest : n / 256 < 256 ^ count := by
      rw [pow_succ'] at small
      exact Nat.div_lt_of_lt_mul small
    have first : (UInt8.ofNat n).toNat = n % 256 := UInt8.toNat_ofNat'
    rw [littleEndian, ofLittleEndian, ih rest, first]
    exact Nat.mod_add_div n 256

theorem ofLittleEndian_lt (bytes : List UInt8) : ofLittleEndian bytes < 256 ^ bytes.length := by
  induction bytes with
  | nil => exact Nat.one_pos
  | cons b bytes ih =>
    have first := b.toNat_lt
    rw [ofLittleEndian, List.length_cons, pow_succ']
    omega

theorem littleEndian_ofLittleEndian (bytes : List UInt8) :
    littleEndian bytes.length (ofLittleEndian bytes) = bytes := by
  induction bytes with
  | nil => rfl
  | cons b bytes ih =>
    have first : UInt8.ofNat (b.toNat + 256 * ofLittleEndian bytes) = b := by
      apply UInt8.toNat_inj.mp
      rw [UInt8.toNat_ofNat', Nat.add_mul_mod_self_left, Nat.mod_eq_of_lt b.toNat_lt]
    have rest : (b.toNat + 256 * ofLittleEndian bytes) / 256 = ofLittleEndian bytes := by
      rw [Nat.add_mul_div_left _ _ (by decide), Nat.div_eq_of_lt b.toNat_lt, Nat.zero_add]
    rw [List.length_cons, ofLittleEndian, littleEndian, first, rest, ih]

namespace Value

theorem length_toBytes (v : Value) : v.toBytes.length = v.kind.size :=
  length_littleEndian _ _

theorem bits_lt (v : Value) : v.bits < 256 ^ v.kind.size := by
  cases v with
  | i32 v => exact v.toUInt32.toNat_lt
  | i64 v => exact v.toUInt64.toNat_lt
  | f32 b => exact b.toNat_lt
  | f64 b => exact b.toNat_lt
  | v128 v => exact v.isLt

theorem ofBits_bits (v : Value) : ofBits v.kind v.bits = v := by
  cases v <;> simp [ofBits, kind, bits]

theorem bits_ofBits {kind : Kind} {n : Nat} (fits : n < 256 ^ kind.size) :
    (ofBits kind n).bits = n := by
  cases kind with
  | i32 | f32 => exact Nat.mod_eq_of_lt fits
  | i64 | f64 => exact Nat.mod_eq_of_lt fits
  | v128 => exact Nat.mod_eq_of_lt fits

theorem kind_ofBits (kind : Kind) (n : Nat) : (ofBits kind n).kind = kind := by
  cases kind <;> rfl

theorem toBytes_ofBits {kind : Kind} {bytes : List UInt8} (length : bytes.length = kind.size) :
    (ofBits kind (ofLittleEndian bytes)).toBytes = bytes := by
  have fits := ofLittleEndian_lt bytes
  rw [length] at fits
  rw [toBytes, kind_ofBits, bits_ofBits fits, ← length, littleEndian_ofLittleEndian]

theorem ofBytes_toBytes (v : Value) : ofBytes v.kind v.toBytes = .ok v := by
  rw [ofBytes, if_pos v.length_toBytes, toBytes, ofLittleEndian_littleEndian v.bits_lt,
    v.ofBits_bits]

theorem eq_of_toBytes {v w : Value} (kinds : v.kind = w.kind) (bytes : v.toBytes = w.toBytes) :
    v = w := by
  have reads := v.ofBytes_toBytes
  rw [kinds, bytes, w.ofBytes_toBytes] at reads
  exact (Except.ok.inj reads).symm

theorem ofBytes_eq_ok {kind : Kind} {bytes : List UInt8} {v : Value} :
    ofBytes kind bytes = .ok v ↔ v.kind = kind ∧ v.toBytes = bytes := by
  constructor
  · intro reads
    unfold ofBytes at reads
    split at reads <;> cases reads
    exact ⟨kind_ofBits kind _, toBytes_ofBits ‹_›⟩
  · rintro ⟨rfl, rfl⟩
    exact v.ofBytes_toBytes

theorem exists_ofBytes {kind : Kind} {bytes : List UInt8} :
    (∃ v, ofBytes kind bytes = .ok v) ↔ bytes.length = kind.size := by
  constructor
  · rintro ⟨v, reads⟩
    obtain ⟨rfl, rfl⟩ := ofBytes_eq_ok.mp reads
    exact v.length_toBytes
  · exact fun length => ⟨_, if_pos length⟩

end Value

end ModuleHost
