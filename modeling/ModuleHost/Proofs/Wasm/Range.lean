import Mathlib.Tactic
import ModuleHost.Proofs.Ieee.Range
import ModuleHost.Wasm.Numeric

namespace ModuleHost.Wasm

/-- The bits that an operand of a type may have. Of a reference, which is no number, nothing is
asked. -/
def ValType.Holds : ValType → Slot → Prop
  | i32, v | f32, v => v < Nat.pow 2 32
  | i64, v | f64, v => v < Nat.pow 2 64
  | v128, v => v < Nat.pow 2 128
  | funcref, _ | externref, _ => True

theorem ValType.holds_zero (t : ValType) : t.Holds 0 := by
  cases t <;> first | trivial | exact Nat.two_pow_pos _

namespace IntWidth

theorem holds_iff {w : IntWidth} {v : Slot} : w.type.Holds v ↔ v < w.modulus := by
  cases w <;> exact Iff.rfl

theorem modulus_eq (w : IntWidth) : w.modulus = 2 ^ w.bits := by
  cases w <;> rfl

theorem modulus_pos (w : IntWidth) : 0 < w.modulus := by
  cases w <;> decide

theorem le_bits_lt {w : IntWidth} {n : Nat} (small : n ≤ w.bits) : n < w.modulus := by
  rw [modulus_eq]
  exact Nat.lt_of_le_of_lt small Nat.lt_two_pow_self

theorem ofSigned_lt (w : IntWidth) (n : Int) : w.ofSigned n < w.modulus := by
  have positive : (0 : Int) < w.modulus := by exact_mod_cast w.modulus_pos
  have bound := Int.emod_lt_of_pos n positive
  have sign := Int.emod_nonneg n positive.ne'
  unfold ofSigned
  omega

end IntWidth

theorem signExtend_lt {w : IntWidth} {bits : Nat} (narrow : bits ≤ w.bits) (a : Nat) :
    signExtend w bits a < w.modulus := by
  have low : a % 2 ^ bits < 2 ^ bits := Nat.mod_lt a (Nat.two_pow_pos bits)
  have fits : 2 ^ bits ≤ w.modulus := by
    rw [w.modulus_eq]
    exact Nat.pow_le_pow_right (by decide) narrow
  show (if a % 2 ^ bits < 2 ^ (bits - 1) then a % 2 ^ bits
    else a % 2 ^ bits + w.modulus - 2 ^ bits) < w.modulus
  split <;> omega

theorem countOnes_le (bits a : Nat) : countOnes bits a ≤ bits := by
  induction bits generalizing a with
  | zero => exact le_refl 0
  | succ bits ih =>
    have rest := ih (a / 2)
    simp only [countOnes]
    omega

theorem trailingZeros_le (bits a : Nat) : trailingZeros bits a ≤ bits := by
  induction bits generalizing a with
  | zero => exact le_refl 0
  | succ bits ih =>
    have rest := ih (a / 2)
    simp only [trailingZeros]
    split <;> omega

theorem IntUnary.apply_lt (w : IntWidth) (op : IntUnary) (a : Nat) : op.apply w a < w.modulus := by
  cases op with
  | clz =>
    refine IntWidth.le_bits_lt ?_
    simp only [apply]
    split <;> omega
  | ctz => exact IntWidth.le_bits_lt (trailingZeros_le _ _)
  | popcnt => exact IntWidth.le_bits_lt (countOnes_le _ _)
  | extend8 | extend16 | extend32 => exact signExtend_lt (by cases w <;> decide) a

theorem rotateLeft_lt {w : IntWidth} {a count : Nat} (fits : a < w.modulus)
    (turn : count ≤ w.bits) : rotateLeft w a count < w.modulus := by
  have whole : w.modulus = 2 ^ count * 2 ^ (w.bits - count) := by
    rw [w.modulus_eq, ← pow_add, Nat.add_sub_cancel' turn]
  have high : a / 2 ^ (w.bits - count) < 2 ^ count := by
    rwa [Nat.div_lt_iff_lt_mul (Nat.two_pow_pos _), ← whole]
  have low : a % 2 ^ (w.bits - count) + 1 ≤ 2 ^ (w.bits - count) :=
    Nat.mod_lt a (Nat.two_pow_pos _)
  show (a * 2 ^ count) % w.modulus + a / 2 ^ (w.bits - count) < w.modulus
  rw [Nat.mul_comm a, whole, Nat.mul_mod_mul_left]
  calc 2 ^ count * (a % 2 ^ (w.bits - count)) + a / 2 ^ (w.bits - count)
      < 2 ^ count * (a % 2 ^ (w.bits - count)) + 2 ^ count := Nat.add_lt_add_left high _
    _ = 2 ^ count * (a % 2 ^ (w.bits - count) + 1) := by rw [Nat.mul_add, Nat.mul_one]
    _ ≤ 2 ^ count * 2 ^ (w.bits - count) := Nat.mul_le_mul_left _ low

theorem IntBinary.apply_lt {w : IntWidth} {op : IntBinary} {a b v : Nat} (left : a < w.modulus)
    (right : b < w.modulus) (gives : op.apply w a b = .ok v) : v < w.modulus := by
  have modulo (n : Nat) : n % w.modulus < w.modulus := Nat.mod_lt n w.modulus_pos
  have turn (n : Nat) : n % w.bits ≤ w.bits := Nat.le_of_lt (Nat.mod_lt n (by cases w <;> decide))
  -- Arithmetic is modulo; division only makes less of its operands, and bits stay below a power.
  cases op with
  | add | sub | mul | shl =>
    cases gives
    exact modulo _
  | divS =>
    simp only [apply] at gives
    repeat' split at gives
    all_goals cases gives
    exact w.ofSigned_lt _
  | remS =>
    simp only [apply] at gives
    split at gives <;> cases gives
    exact w.ofSigned_lt _
  | divU =>
    simp only [apply] at gives
    split at gives <;> cases gives
    exact Nat.lt_of_le_of_lt (Nat.div_le_self a b) left
  | remU =>
    simp only [apply] at gives
    split at gives <;> cases gives
    exact Nat.lt_of_le_of_lt (Nat.mod_le a b) left
  | and =>
    cases gives
    rw [w.modulus_eq] at right ⊢
    exact Nat.and_lt_two_pow a right
  | or =>
    cases gives
    rw [w.modulus_eq] at left right ⊢
    exact Nat.or_lt_two_pow left right
  | xor =>
    cases gives
    rw [w.modulus_eq] at left right ⊢
    exact Nat.xor_lt_two_pow left right
  | shrS =>
    cases gives
    exact w.ofSigned_lt _
  | shrU =>
    cases gives
    exact Nat.lt_of_le_of_lt (Nat.div_le_self _ _) left
  | rotl | rotr =>
    cases gives
    exact rotateLeft_lt left (turn _)

namespace FloatWidth

theorem hasQuietBit (w : FloatWidth) : w.format.HasQuietBit := by
  cases w <;> exact Nat.le_of_ble_eq_true rfl

theorem holds_iff {w : FloatWidth} {v : Slot} : w.type.Holds v ↔ w.format.Fits v := by
  cases w <;> exact Iff.rfl

theorem holds_intType {w : FloatWidth} {v : Slot} : w.intType.Holds v ↔ w.type.Holds v := by
  cases w <;> exact Iff.rfl

end FloatWidth

section

open Ieee.Format

theorem FloatUnary.fits_apply {f : Ieee.Format} (quiets : f.HasQuietBit) {op : FloatUnary} {a : Nat}
    (fits : f.Fits a) : f.Fits (op.apply f a) := by
  cases op with
  | abs => exact fits_of_lt (magnitude_lt f a)
  | neg => exact fits_neg f a
  | ceil | floor | trunc | nearest => exact fits_toIntegral quiets _ fits
  | sqrt => exact fits_sqrt quiets fits

theorem FloatBinary.fits_apply {f : Ieee.Format} (quiets : f.HasQuietBit) {op : FloatBinary}
    {a b : Nat} (left : f.Fits a) (right : f.Fits b) : f.Fits (op.apply f a b) := by
  cases op with
  | add => exact fits_add quiets left right
  | sub => exact fits_sub quiets left
  | mul => exact fits_mul quiets a b
  | div => exact fits_div quiets a b
  | min => exact fits_minimum quiets left right
  | max => exact fits_maximum quiets left right
  | copysign => exact fits_withSign _ (magnitude_lt f a)

end

theorem truncate_lt {f : Ieee.Format} {w : IntWidth} {signed : Bool} {a v : Nat}
    (gives : truncate f w signed a = .ok v) : v < w.modulus := by
  unfold truncate at gives
  dsimp only at gives
  repeat' split at gives
  all_goals cases gives
  exact w.ofSigned_lt _

theorem truncateSat_lt (f : Ieee.Format) (w : IntWidth) (signed : Bool) (a : Nat) :
    truncateSat f w signed a < w.modulus := by
  unfold truncateSat
  dsimp only
  repeat' split
  · exact w.modulus_pos
  all_goals exact w.ofSigned_lt _

theorem holds_ofBool (b : Bool) : ValType.i32.Holds (ofBool b) := by
  refine (IntWidth.holds_iff (w := .w32)).mpr ?_
  cases b <;> decide

theorem Unary.holds_apply {op : Unary} {a v : Slot} (takes : op.type.1.Holds a)
    (gives : op.apply a = .ok v) : op.type.2.Holds v := by
  cases op with
  | isZero w =>
    cases gives
    exact holds_ofBool _
  | int w op =>
    cases gives
    exact IntWidth.holds_iff.mpr (op.apply_lt w a)
  | float w op =>
    cases gives
    refine FloatWidth.holds_iff.mpr (FloatUnary.fits_apply w.hasQuietBit ?_)
    exact FloatWidth.holds_iff.mp takes
  | wrap =>
    cases gives
    exact (IntWidth.holds_iff (w := .w32)).mpr (Nat.mod_lt a (IntWidth.modulus_pos .w32))
  | extend signed =>
    cases gives
    refine (IntWidth.holds_iff (w := .w64)).mpr ?_
    split
    · exact signExtend_lt (by decide) a
    · exact ((IntWidth.holds_iff (w := .w32)).mp takes).trans (by decide)
  | truncate source target signed => exact IntWidth.holds_iff.mpr (truncate_lt gives)
  | truncateSat source target signed =>
    cases gives
    exact IntWidth.holds_iff.mpr (truncateSat_lt ..)
  | convert source signed target =>
    cases gives
    exact FloatWidth.holds_iff.mpr (Ieee.Format.fits_ofInt target.hasQuietBit _)
  | demote =>
    cases gives
    exact FloatWidth.holds_iff.mpr (Ieee.Format.fits_ofFormat (FloatWidth.hasQuietBit .w32) _ a)
  | promote =>
    cases gives
    exact FloatWidth.holds_iff.mpr (Ieee.Format.fits_ofFormat (FloatWidth.hasQuietBit .w64) _ a)
  | reinterpretFloat w =>
    cases gives
    exact FloatWidth.holds_intType.mpr takes
  | reinterpretInt w =>
    cases gives
    exact FloatWidth.holds_intType.mp takes

theorem Binary.holds_apply {op : Binary} {a b v : Slot} (left : op.type.1.Holds a)
    (right : op.type.1.Holds b) (gives : op.apply a b = .ok v) : op.type.2.Holds v := by
  cases op with
  | int w op =>
    have fits := IntBinary.apply_lt (IntWidth.holds_iff.mp left) (IntWidth.holds_iff.mp right) gives
    exact IntWidth.holds_iff.mpr fits
  | intCompare w op =>
    cases gives
    exact holds_ofBool _
  | float w op =>
    cases gives
    refine FloatWidth.holds_iff.mpr (FloatBinary.fits_apply w.hasQuietBit ?_ ?_)
    · exact FloatWidth.holds_iff.mp left
    · exact FloatWidth.holds_iff.mp right
  | floatCompare w op =>
    cases gives
    exact holds_ofBool _

end ModuleHost.Wasm
