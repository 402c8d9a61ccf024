import Mathlib.Data.Int.Log
import Mathlib.Data.Rat.Floor
import Mathlib.Tactic
import ModuleHost.Proofs.Ieee.Range

/-!
# Rounding

Rounding is a function of the quotient, not of its numerator and denominator (`round_mul_left`).
What a format represents rounds to itself (`round_of_value`); beyond the greatest exponent there is
infinity (`round_of_large`), and zero below half the least magnitude (`round_of_small`).
-/

namespace ModuleHost.Ieee

variable {f : Format} {num den c x : Nat} {e : Int}

theorem scale_pos (positive : 0 < den) : 0 < (scale num den e).2 := by
  cases e with
  | ofNat e => exact positive
  | negSucc e => exact Nat.mul_pos positive (Nat.two_pow_pos _)

theorem scale_quotient (num den : Nat) (e : Int) :
    ((scale num den e).1 : ℚ) / (scale num den e).2 = num / den * 2 ^ e := by
  cases e with
  | ofNat e =>
    show ((num * 2 ^ e : Nat) : ℚ) / den = num / den * 2 ^ (e : Int)
    rw [zpow_natCast]
    push_cast
    ring
  | negSucc e =>
    show (num : ℚ) / (den * 2 ^ (e + 1) : Nat) = num / den * 2 ^ (Int.negSucc e)
    rw [zpow_negSucc]
    push_cast
    rw [div_mul_eq_div_div, div_eq_mul_inv (_ / _)]

theorem scale_mul_left (c num den : Nat) (e : Int) :
    scale (c * num) (c * den) e = (c * (scale num den e).1, c * (scale num den e).2) := by
  cases e with
  | ofNat e => exact Prod.ext (Nat.mul_assoc _ _ _) rfl
  | negSucc e => exact Prod.ext rfl (Nat.mul_assoc _ _ _)

theorem quotient_pos (numerator : 0 < num) (denominator : 0 < den) : (0 : ℚ) < num / den := by
  positivity

theorem numerator_pos (positive : (0 : ℚ) < num / den) : 0 < num := by
  by_contra none
  simp [Nat.eq_zero_of_not_pos none] at positive

theorem scale_neg_le_iff (denominator : 0 < den) :
    (scale num den (-e)).2 ≤ (scale num den (-e)).1 ↔ (2 : ℚ) ^ e ≤ num / den := by
  have scaled : (0 : ℚ) < (scale num den (-e)).2 := Nat.cast_pos.mpr (scale_pos denominator)
  have power : (0 : ℚ) < 2 ^ e := by positivity
  have quotient := scale_quotient num den (-e)
  rw [zpow_neg, ← div_eq_mul_inv] at quotient
  rw [← Nat.cast_le (α := ℚ), ← one_le_div₀ scaled, quotient, one_le_div₀ power]

theorem floorLog2_eq (numerator : 0 < num) (denominator : 0 < den) :
    floorLog2 num den = Int.log 2 (num / den : ℚ) := by
  have positive := quotient_pos numerator denominator
  have iff (k : Int) : (2 : ℚ) ^ k ≤ num / den ↔ k ≤ Int.log 2 (num / den : ℚ) := by
    exact_mod_cast Int.zpow_le_iff_le_log (b := 2) (by decide) positive
  have power : (0 : ℚ) < 2 ^ den.log2 := by positivity
  -- Both operands lie between two neighbouring powers of two.
  have upper : (num / den : ℚ) < 2 ^ ((num.log2 : Int) - den.log2 + 1) := by
    have above : (num : ℚ) < 2 ^ (num.log2 + 1) := by exact_mod_cast Nat.lt_log2_self
    have below : (2 : ℚ) ^ den.log2 ≤ den := by
      exact_mod_cast Nat.log2_self_le (Nat.ne_of_gt denominator)
    calc (num / den : ℚ) ≤ num / 2 ^ den.log2 := by gcongr
      _ < 2 ^ (num.log2 + 1) / 2 ^ den.log2 := by gcongr
      _ = 2 ^ ((num.log2 : Int) - den.log2 + 1) := by
        rw [← zpow_natCast, ← zpow_natCast, ← zpow_sub₀ two_ne_zero]
        congr 1
        push_cast
        ring
  have lower : (2 : ℚ) ^ ((num.log2 : Int) - den.log2 - 1) ≤ num / den := by
    have above : (den : ℚ) ≤ 2 ^ (den.log2 + 1) := by
      exact_mod_cast Nat.le_of_lt Nat.lt_log2_self
    have below : (2 : ℚ) ^ num.log2 ≤ num := by
      exact_mod_cast Nat.log2_self_le (Nat.ne_of_gt numerator)
    calc (2 : ℚ) ^ ((num.log2 : Int) - den.log2 - 1) = 2 ^ num.log2 / 2 ^ (den.log2 + 1) := by
          rw [← zpow_natCast, ← zpow_natCast, ← zpow_sub₀ two_ne_zero]
          congr 1
          push_cast
          ring
      _ ≤ num / 2 ^ (den.log2 + 1) := by gcongr
      _ ≤ num / den := by gcongr
  have atMost : Int.log 2 (num / den : ℚ) < (num.log2 : Int) - den.log2 + 1 :=
    (Int.lt_zpow_iff_log_lt (by decide) positive).mp (by exact_mod_cast upper)
  have atLeast := (iff _).mp lower
  unfold floorLog2
  dsimp only
  split
  · rename_i reached
    have := (iff _).mp ((scale_neg_le_iff denominator).mp reached)
    omega
  · rename_i missed
    have := mt (fun reached => (scale_neg_le_iff denominator).mpr ((iff _).mpr reached)) missed
    omega

theorem floorLog2_mul_left (positive : 0 < c) (numerator : 0 < num) (denominator : 0 < den) :
    floorLog2 (c * num) (c * den) = floorLog2 num den := by
  have nonzero : (c : ℚ) ≠ 0 := Nat.cast_ne_zero.mpr (Nat.ne_of_gt positive)
  rw [floorLog2_eq (Nat.mul_pos positive numerator) (Nat.mul_pos positive denominator),
    floorLog2_eq numerator denominator, Nat.cast_mul, Nat.cast_mul, mul_div_mul_left _ _ nonzero]

theorem roundQuotient_mul_left (positive : 0 < c) :
    roundQuotient (c * num) (c * den) = roundQuotient num den := by
  have below : 2 * (c * (num % den)) < c * den ↔ 2 * (num % den) < den := by
    rw [Nat.mul_left_comm, Nat.mul_lt_mul_left positive]
  have half : 2 * (c * (num % den)) = c * den ↔ 2 * (num % den) = den := by
    rw [Nat.mul_left_comm, Nat.mul_right_inj (Nat.ne_of_gt positive)]
  simp only [roundQuotient, Nat.mul_div_mul_left _ _ positive, Nat.mul_mod_mul_left, below, half]

theorem roundQuotient_of_integer {n : Nat} (denominator : 0 < den) (integer : (num / den : ℚ) = n) :
    roundQuotient num den = n := by
  have product : num = n * den := by
    rw [div_eq_iff (Nat.cast_ne_zero.mpr (Nat.ne_of_gt denominator))] at integer
    exact_mod_cast integer
  have exact : 2 * (num % den) < den := by
    rw [product, Nat.mul_mod_left]
    exact denominator
  rw [roundQuotient, if_pos (.inl exact), product, Nat.mul_div_cancel _ denominator]

theorem roundQuotient_of_lt_half (denominator : 0 < den) (small : (num / den : ℚ) < 1 / 2) :
    roundQuotient num den = 0 := by
  have twice : 2 * num < den := by
    rw [div_lt_div_iff₀ (Nat.cast_pos.mpr denominator) two_pos, one_mul, mul_comm] at small
    exact_mod_cast small
  have less : num < den := by omega
  rw [roundQuotient, Nat.mod_eq_of_lt less, if_pos (.inl twice), Nat.div_eq_of_lt less]

namespace Format

def lastPlace (f : Format) (num den : Nat) : Int :=
  max f.minExponent (floorLog2 num den - (f.precision - 1 : Nat))

theorem round_eq (numerator : 0 < num) :
    f.round num den =
      min ((f.lastPlace num den - f.minExponent).toNat * 2 ^ (f.precision - 1) +
        roundQuotient (scale num den (-f.lastPlace num den)).1
          (scale num den (-f.lastPlace num den)).2) f.infinity := by
  rw [round, if_neg (Nat.ne_of_gt numerator)]
  rfl

theorem round_mul_left (positive : 0 < c) (denominator : 0 < den) :
    f.round (c * num) (c * den) = f.round num den := by
  rcases Nat.eq_zero_or_pos num with rfl | numerator
  · rfl
  · rw [round_eq (Nat.mul_pos positive numerator), round_eq numerator, lastPlace,
      floorLog2_mul_left positive numerator denominator, scale_mul_left,
      roundQuotient_mul_left positive, lastPlace]

def value (f : Format) (x : Nat) : ℚ :=
  (f.decode x).1 * 2 ^ (f.decode x).2

/-- The form that a mantissa and an exponent have in a magnitude: the leading bit is there unless
the exponent is the least one. -/
structure Encodes (f : Format) (x m : Nat) (e : Int) : Prop where
  least : f.minExponent ≤ e
  below : m < 2 * 2 ^ (f.precision - 1)
  leading : e = f.minExponent ∨ 2 ^ (f.precision - 1) ≤ m
  magnitude : x = (e - f.minExponent).toNat * 2 ^ (f.precision - 1) + m

theorem encodes_decode (f : Format) (x : Nat) :
    f.Encodes x (f.decode x).1 (f.decode x).2 := by
  have split := Nat.mod_add_div x (2 ^ (f.precision - 1))
  have remainder := Nat.mod_lt x (Nat.two_pow_pos (f.precision - 1))
  unfold decode
  simp only [Nat.pow_eq]
  split_ifs with field
  · rw [field, Nat.mul_zero, Nat.add_zero] at split
    exact ⟨le_refl _, by omega, .inl rfl, by simp⟩
  · obtain ⟨above, same⟩ := Nat.exists_eq_succ_of_ne_zero field
    rw [same, Nat.mul_succ, Nat.mul_comm] at split
    rw [same]
    have exponent : (f.minExponent + (above.succ : Nat) - 1 - f.minExponent).toNat = above := by
      omega
    refine ⟨by omega, by omega, .inr (by omega), ?_⟩
    rw [exponent]
    omega

theorem lastPlace_of_value {m : Nat} (encodes : f.Encodes x m e) (mantissa : 0 < m)
    (denominator : 0 < den) (represented : (num / den : ℚ) = m * 2 ^ e) :
    f.lastPlace num den = e := by
  have positive : (0 : ℚ) < num / den := by
    rw [represented]
    positivity
  have power : (2 : ℚ) ^ (f.precision - 1) * 2 ^ e = 2 ^ ((f.precision - 1 : Nat) + e) := by
    rw [zpow_add₀ two_ne_zero, zpow_natCast]
  have upper : Int.log 2 (num / den : ℚ) < (f.precision - 1 : Nat) + e + 1 := by
    rw [← Int.lt_zpow_iff_log_lt (by decide) positive, represented, Nat.cast_ofNat,
      zpow_add_one₀ two_ne_zero, ← power, mul_comm, mul_comm (_ * _) (2 : ℚ), ← mul_assoc,
      mul_comm (2 ^ e)]
    gcongr
    exact_mod_cast encodes.below
  rw [lastPlace, floorLog2_eq (numerator_pos positive) denominator]
  rcases encodes.leading with least | full
  · rw [max_eq_left (by omega), least]
  · have lower : (f.precision - 1 : Nat) + e ≤ Int.log 2 (num / den : ℚ) := by
      rw [← Int.zpow_le_iff_le_log (by decide) positive, represented, Nat.cast_ofNat, ← power]
      gcongr
      exact_mod_cast full
    have least := encodes.least
    omega

theorem mantissa_pos {m : Nat} (encodes : f.Encodes x m e) (positive : 0 < x) : 0 < m := by
  rcases encodes.leading with least | full
  · have magnitude := encodes.magnitude
    rw [least, sub_self, Int.toNat_zero, Nat.zero_mul, Nat.zero_add] at magnitude
    exact magnitude ▸ positive
  · exact Nat.lt_of_lt_of_le (Nat.two_pow_pos _) full

theorem value_pos (positive : 0 < x) : 0 < f.value x := by
  have mantissa := mantissa_pos (f.encodes_decode x) positive
  rw [value]
  positivity

theorem round_of_value (positive : 0 < x) (finite : x ≤ f.infinity) (denominator : 0 < den)
    (represented : (num / den : ℚ) = f.value x) : f.round num den = x := by
  have encodes := f.encodes_decode x
  have numerator : 0 < num := numerator_pos (represented ▸ value_pos positive)
  rw [value] at represented
  have integer : ((scale num den (-(f.decode x).2)).1 / (scale num den (-(f.decode x).2)).2 : ℚ) =
      (f.decode x).1 := by
    rw [scale_quotient, represented, mul_assoc, ← zpow_add₀ two_ne_zero, add_neg_cancel, zpow_zero,
      mul_one]
  rw [round_eq numerator,
    lastPlace_of_value encodes (mantissa_pos encodes positive) denominator represented,
    roundQuotient_of_integer (scale_pos denominator) integer, ← encodes.magnitude,
    Nat.min_eq_left finite]

theorem round_of_large (precise : 0 < f.precision) (denominator : 0 < den)
    (large : (2 : ℚ) ^ (2 ^ (f.exponentBits - 1) + 1) ≤ num / den) :
    f.round num den = f.infinity := by
  have positive : (0 : ℚ) < num / den := lt_of_lt_of_le (by positivity) large
  have log : ((2 ^ (f.exponentBits - 1) + 1 : Nat) : Int) ≤ floorLog2 num den := by
    rw [floorLog2_eq (numerator_pos positive) denominator,
      ← Int.zpow_le_iff_le_log (by decide) positive, zpow_natCast]
    exact_mod_cast large
  have place : floorLog2 num den - (f.precision - 1 : Nat) ≤ f.lastPlace num den :=
    le_max_right _ _
  have fields : 2 ^ f.exponentBits ≤ 2 * 2 ^ (f.exponentBits - 1) := by
    rw [← pow_succ']
    exact Nat.pow_le_pow_right two_pos (by omega)
  have exponent : 2 ^ f.exponentBits - 1 ≤ (f.lastPlace num den - f.minExponent).toNat := by
    have least : f.minExponent = 3 - (2 ^ (f.exponentBits - 1) : Nat) - f.precision := rfl
    generalize 2 ^ (f.exponentBits - 1) = half at log fields least
    omega
  rw [round_eq (numerator_pos positive), Nat.min_eq_right]
  calc f.infinity = (2 ^ f.exponentBits - 1) * 2 ^ (f.precision - 1) := rfl
    _ ≤ (f.lastPlace num den - f.minExponent).toNat * 2 ^ (f.precision - 1) := by gcongr
    _ ≤ _ := Nat.le_add_right _ _

theorem round_of_small (denominator : 0 < den)
    (small : (num / den : ℚ) < 2 ^ (f.minExponent - 1)) : f.round num den = 0 := by
  rcases Nat.eq_zero_or_pos num with rfl | numerator
  · rfl
  · have log : floorLog2 num den < f.minExponent - 1 := by
      rw [floorLog2_eq numerator denominator,
        ← Int.lt_zpow_iff_log_lt (by decide) (quotient_pos numerator denominator)]
      exact_mod_cast small
    have place : f.lastPlace num den = f.minExponent := max_eq_left (by omega)
    have half : ((scale num den (-f.minExponent)).1 / (scale num den (-f.minExponent)).2 : ℚ) <
        1 / 2 := by
      rw [scale_quotient]
      calc (num / den : ℚ) * 2 ^ (-f.minExponent)
          < 2 ^ (f.minExponent - 1) * 2 ^ (-f.minExponent) := by gcongr
        _ = 1 / 2 := by
          rw [← zpow_add₀ two_ne_zero, sub_add_eq_add_sub, add_neg_cancel]
          norm_num
    rw [round_eq numerator, place, roundQuotient_of_lt_half (scale_pos denominator) half]
    simp

end Format

end ModuleHost.Ieee
