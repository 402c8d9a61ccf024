import Mathlib.Tactic
import ModuleHost.Ieee.Arithmetic
import ModuleHost.Ieee.Decimal

namespace ModuleHost.Ieee.Format

def Fits (f : Format) (a : Nat) : Prop :=
  a < 2 * f.signBit

def HasQuietBit (f : Format) : Prop :=
  2 ≤ f.precision

variable {f : Format} {a b : Nat}

theorem infinity_add_lt (quiets : f.HasQuietBit) :
    f.infinity + 2 ^ (f.precision - 2) < f.signBit := by
  obtain ⟨p, e⟩ := f
  obtain ⟨p, rfl⟩ : ∃ q, p = q + 2 := Nat.exists_eq_add_of_le' quiets
  show (2 ^ e - 1) * 2 ^ (p + 1) + 2 ^ p < 2 ^ (p + 2 + e - 1)
  have sign : 2 ^ (p + 2 + e - 1) = 2 ^ e * 2 ^ (p + 1) := by
    rw [← pow_add]
    congr 1
    omega
  have fraction : 2 ^ p < 2 ^ (p + 1) := Nat.pow_lt_pow_right (by decide) (Nat.lt_succ_self p)
  have one : 2 ^ (p + 1) ≤ 2 ^ e * 2 ^ (p + 1) := Nat.le_mul_of_pos_left _ (by positivity)
  rw [sign, Nat.sub_mul, Nat.one_mul]
  omega

theorem infinity_lt (quiets : f.HasQuietBit) : f.infinity < f.signBit :=
  Nat.lt_of_le_of_lt (Nat.le_add_right _ _) (infinity_add_lt quiets)

theorem quietNaN_lt (quiets : f.HasQuietBit) : f.quietNaN < f.signBit :=
  infinity_add_lt quiets

theorem magnitude_lt (f : Format) (a : Nat) : f.magnitude a < f.signBit :=
  Nat.mod_lt a (Nat.two_pow_pos _)

theorem round_le (f : Format) (num den : Nat) : f.round num den ≤ f.infinity := by
  unfold round
  split
  · exact Nat.zero_le _
  · exact Nat.min_le_right _ _

theorem fits_of_lt (low : a < f.signBit) : f.Fits a :=
  Nat.lt_of_lt_of_le low (Nat.le_mul_of_pos_left _ (by decide))

theorem fits_withSign (negative : Bool) (low : a < f.signBit) : f.Fits (f.withSign negative a) := by
  unfold withSign
  split
  · show f.signBit + a < 2 * f.signBit
    omega
  · exact fits_of_lt low

theorem fits_neg (f : Format) (a : Nat) : f.Fits (f.neg a) :=
  fits_withSign _ (magnitude_lt f a)

section

variable (quiets : f.HasQuietBit)

include quiets

theorem fits_quietNaN : f.Fits f.quietNaN :=
  fits_of_lt (quietNaN_lt quiets)

theorem fits_infinity (negative : Bool) : f.Fits (f.withSign negative f.infinity) :=
  fits_withSign negative (infinity_lt quiets)

theorem fits_round (negative : Bool) (num den : Nat) :
    f.Fits (f.withSign negative (f.round num den)) :=
  fits_withSign negative (Nat.lt_of_le_of_lt (round_le f num den) (infinity_lt quiets))

theorem fits_roundSigned (zeroSign : Bool) (mantissa exponent : Int) :
    f.Fits (f.roundSigned zeroSign mantissa exponent) := by
  unfold roundSigned
  split
  · exact fits_withSign zeroSign (Nat.two_pow_pos _)
  · exact fits_round quiets _ _ _

theorem fits_add (left : f.Fits a) (right : f.Fits b) : f.Fits (f.add a b) := by
  unfold add
  split
  · exact fits_quietNaN quiets
  · split
    · split
      · exact fits_quietNaN quiets
      · exact left
    · split
      · exact right
      · exact fits_roundSigned quiets _ _ _

theorem fits_sub (left : f.Fits a) : f.Fits (f.sub a b) := by
  unfold sub
  split
  · exact fits_quietNaN quiets
  · exact fits_add quiets left (fits_neg f b)

theorem fits_mul (a b : Nat) : f.Fits (f.mul a b) := by
  unfold mul
  dsimp only
  repeat' split
  · exact fits_quietNaN quiets
  · exact fits_quietNaN quiets
  · exact fits_infinity quiets _
  · exact fits_round quiets _ _ _

theorem fits_div (a b : Nat) : f.Fits (f.div a b) := by
  unfold div
  dsimp only
  repeat' split
  · exact fits_quietNaN quiets
  · exact fits_quietNaN quiets
  · exact fits_infinity quiets _
  · exact fits_withSign _ (Nat.two_pow_pos _)
  · exact fits_quietNaN quiets
  · exact fits_infinity quiets _
  · exact fits_round quiets _ _ _

theorem fits_minimum (left : f.Fits a) (right : f.Fits b) : f.Fits (f.minimum a b) := by
  unfold minimum
  repeat' split
  · exact fits_quietNaN quiets
  all_goals assumption

theorem fits_maximum (left : f.Fits a) (right : f.Fits b) : f.Fits (f.maximum a b) := by
  unfold maximum
  repeat' split
  · exact fits_quietNaN quiets
  all_goals assumption

theorem fits_sqrt (fits : f.Fits a) : f.Fits (f.sqrt a) := by
  unfold sqrt
  split
  · exact fits_quietNaN quiets
  · split
    · exact fits
    · split
      · exact fits_quietNaN quiets
      · split
        · exact fits
        · exact fits_round quiets false _ _

theorem fits_ofInt (n : Int) : f.Fits (f.ofInt n) :=
  fits_roundSigned quiets false n 0

theorem fits_ofFormat (g : Format) (a : Nat) : f.Fits (f.ofFormat g a) := by
  unfold ofFormat
  split
  · exact fits_withSign _ (quietNaN_lt quiets)
  · split
    · exact fits_infinity quiets _
    · exact fits_round quiets _ _ _

theorem fits_toIntegral (rule : IntegerRule) (fits : f.Fits a) : f.Fits (f.toIntegral rule a) := by
  unfold toIntegral
  split
  · exact fits_quietNaN quiets
  · split
    · exact fits
    · exact fits_round quiets _ _ _

end

end ModuleHost.Ieee.Format
