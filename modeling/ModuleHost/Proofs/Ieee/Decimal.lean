import ModuleHost.Ieee.Decimal
import ModuleHost.Proofs.Ieee.Rounding
import ModuleHost.Proofs.Text.Digits

namespace ModuleHost.Ieee

variable {f : Format} {d d' : Decimal} {num den num' den' x : Nat}

namespace Decimal

def value (d : Decimal) : ℚ :=
  d.digits * 10 ^ d.exponent

theorem ratio_pos (d : Decimal) : 0 < d.ratio.2 := by
  obtain ⟨digits, exponent⟩ := d
  cases exponent with
  | ofNat e => exact Nat.one_pos
  | negSucc e => exact Nat.pow_pos (by decide)

theorem ratio_quotient (d : Decimal) : (d.ratio.1 / d.ratio.2 : ℚ) = d.value := by
  obtain ⟨digits, exponent⟩ := d
  cases exponent with
  | ofNat e =>
    show ((digits * 10 ^ e : Nat) : ℚ) / (1 : Nat) = digits * 10 ^ (e : Int)
    rw [Nat.cast_one, div_one, zpow_natCast]
    push_cast
    rfl
  | negSucc e =>
    show (digits : ℚ) / (10 ^ (e + 1) : Nat) = digits * 10 ^ (Int.negSucc e)
    rw [zpow_negSucc, div_eq_mul_inv]
    push_cast
    rfl

theorem value_normalize (d : Decimal) (steps : Nat) : (d.normalize steps).value = d.value := by
  induction steps generalizing d with
  | zero => rfl
  | succ steps ih =>
    unfold normalize
    split_ifs with tens
    · rw [ih]
      have digits : (d.digits : ℚ) = (d.digits / 10 : Nat) * 10 := by
        exact_mod_cast (Nat.div_mul_cancel (Nat.dvd_of_mod_eq_zero tens.2)).symm
      rw [value, value, zpow_add_one₀ (by norm_num), digits]
      ring
    · rfl

def leading (d : Decimal) : Int :=
  d.exponent + ((Digits.write 10 d.digits).length : Int) - 1

theorem value_lt (d : Decimal) : d.value < 10 ^ (d.leading + 1) := by
  have digits : d.digits < 10 ^ (Digits.write 10 d.digits).length :=
    (Nat.length_toDigits_le_iff (by decide) Nat.length_toDigits_pos).mp (le_refl _)
  rw [leading, sub_add_cancel, add_comm, zpow_add₀ (by norm_num), zpow_natCast, value]
  gcongr
  exact_mod_cast digits

theorem le_value (nonzero : d.digits ≠ 0) : 10 ^ d.leading ≤ d.value := by
  have digits : 10 ^ ((Digits.write 10 d.digits).length - 1) ≤ d.digits := by
    by_contra less
    rcases Nat.eq_zero_or_pos ((Digits.write 10 d.digits).length - 1) with single | more
    · rw [single, pow_zero] at less
      omega
    · have short := (Nat.length_toDigits_le_iff (by decide) more).mpr (Nat.lt_of_not_le less)
      have full : (Digits.write 10 d.digits).length = (Nat.toDigits 10 d.digits).length := rfl
      omega
  have nonempty : 0 < (Digits.write 10 d.digits).length := Nat.length_toDigits_pos
  have exponent : d.leading = ((Digits.write 10 d.digits).length - 1 : Nat) + d.exponent := by
    unfold leading
    omega
  rw [exponent, zpow_add₀ (by norm_num), zpow_natCast, value]
  gcongr
  exact_mod_cast digits

end Decimal

namespace Format

structure Covered (f : Format) : Prop where
  precise : 0 < f.precision
  exponents : 2 ^ (f.exponentBits - 1) + f.precision ≤ 1190

theorem covered_binary32 : binary32.Covered :=
  ⟨by decide, by decide⟩

theorem covered_binary64 : binary64.Covered :=
  ⟨by decide, by decide⟩

theorem round_congr (denominator : 0 < den) (denominator' : 0 < den')
    (same : (num / den : ℚ) = num' / den') : f.round num den = f.round num' den' := by
  have product : den' * num = den * num' := by
    rw [div_eq_div_iff (by positivity) (by positivity)] at same
    rw [Nat.mul_comm, Nat.mul_comm den]
    exact_mod_cast same
  rw [← round_mul_left denominator' denominator, product, Nat.mul_comm den' den,
    round_mul_left denominator denominator']

theorem ofDecimal_eq (f : Format) (d : Decimal) :
    f.ofDecimal d =
      if d.digits = 0 then 0
      else if exponentBound < d.leading then f.infinity
      else if d.leading < -exponentBound then 0
      else f.round d.ratio.1 d.ratio.2 :=
  rfl

theorem two_pow_le_ten_pow (k : Nat) : (2 : ℚ) ^ (3 * k) ≤ 10 ^ k := by
  rw [pow_mul]
  gcongr
  norm_num

theorem ofDecimal_eq_round (covered : f.Covered) (d : Decimal) :
    f.ofDecimal d = f.round d.ratio.1 d.ratio.2 := by
  have exponents := covered.exponents
  have quotient := d.ratio_quotient
  rw [ofDecimal_eq]
  split_ifs with zero large small
  · rw [round_of_small d.ratio_pos]
    rw [quotient, Decimal.value, zero, Nat.cast_zero, zero_mul]
    positivity
  · refine (round_of_large covered.precise d.ratio_pos ?_).symm
    rw [quotient]
    calc (2 : ℚ) ^ (2 ^ (f.exponentBits - 1) + 1) ≤ 2 ^ (3 * 401) :=
          pow_le_pow_right₀ (by norm_num) (by omega)
      _ ≤ 10 ^ 401 := two_pow_le_ten_pow 401
      _ = 10 ^ ((401 : Nat) : Int) := (zpow_natCast _ _).symm
      _ ≤ 10 ^ d.leading := zpow_le_zpow_right₀ (by norm_num) large
      _ ≤ d.value := d.le_value zero
  · refine (round_of_small d.ratio_pos ?_).symm
    have least : f.minExponent = 3 - (2 ^ (f.exponentBits - 1) : Nat) - f.precision := rfl
    rw [quotient]
    calc d.value < 10 ^ (d.leading + 1) := d.value_lt
      _ ≤ 10 ^ (-((400 : Nat) : Int)) := zpow_le_zpow_right₀ (by norm_num) small
      _ = (10 ^ 400)⁻¹ := by rw [zpow_neg, zpow_natCast]
      _ ≤ (2 ^ (3 * 400))⁻¹ := inv_anti₀ (by positivity) (two_pow_le_ten_pow 400)
      _ = (2 : ℚ) ^ (-((3 * 400 : Nat) : Int)) := by rw [zpow_neg, zpow_natCast]
      _ ≤ 2 ^ (f.minExponent - 1) := zpow_le_zpow_right₀ (by norm_num) (by omega)
  · rfl

theorem ofDecimal_congr (covered : f.Covered) (same : d.value = d'.value) :
    f.ofDecimal d = f.ofDecimal d' := by
  rw [ofDecimal_eq_round covered, ofDecimal_eq_round covered]
  exact round_congr d.ratio_pos d'.ratio_pos (by rw [d.ratio_quotient, d'.ratio_quotient, same])

theorem ofDecimal_of_value (covered : f.Covered) (positive : 0 < x) (finite : x ≤ f.infinity)
    (represents : d.value = f.value x) : f.ofDecimal d = x := by
  rw [ofDecimal_eq_round covered]
  exact round_of_value positive finite d.ratio_pos (by rw [d.ratio_quotient, represents])

theorem value_exactDecimal (m : Nat) (e : Int) : (exactDecimal m e).value = m * 2 ^ e := by
  cases e with
  | ofNat e =>
    show ((m * 2 ^ e : Nat) : ℚ) * 10 ^ (0 : Int) = m * 2 ^ (e : Int)
    rw [zpow_zero, mul_one, zpow_natCast]
    push_cast
    rfl
  | negSucc e =>
    show ((m * 5 ^ (e + 1) : Nat) : ℚ) * 10 ^ (Int.negSucc e) = m * 2 ^ (Int.negSucc e)
    have ten : (10 : ℚ) ^ (e + 1) = 2 ^ (e + 1) * 5 ^ (e + 1) := by
      rw [← mul_pow]
      norm_num
    rw [zpow_negSucc, zpow_negSucc, ten, mul_inv]
    push_cast
    field_simp

theorem ofDecimal_gridPoint {exponent : Int}
    (found : f.gridPoint x num den exponent = some d) : f.ofDecimal d = x := by
  unfold gridPoint at found
  dsimp only at found
  split_ifs at found with lower both upper
  · exact Option.some.inj found ▸ both.1
  · exact Option.some.inj found ▸ lower
  · exact Option.some.inj found ▸ upper

theorem ofDecimal_firstGridPoint {steps : Nat} {exponent : Int}
    (found : f.firstGridPoint x num den steps exponent = some d) : f.ofDecimal d = x := by
  induction steps generalizing exponent with
  | zero => cases found
  | succ steps ih =>
    unfold firstGridPoint at found
    split at found
    · rename_i here
      exact Option.some.inj found ▸ ofDecimal_gridPoint here
    · exact ih found

theorem ofDecimal_shortest (covered : f.Covered) (finite : x ≤ f.infinity) :
    f.ofDecimal (f.shortest x) = x := by
  have encodes := f.encodes_decode x
  unfold shortest
  dsimp only
  split_ifs with zero
  · by_contra other
    exact absurd (mantissa_pos encodes (Nat.pos_of_ne_zero (Ne.symm other))) (by omega)
  · rw [ofDecimal_congr covered (Decimal.value_normalize _ _)]
    generalize found : f.firstGridPoint x _ _ _ _ = point
    cases point with
    | some d => exact ofDecimal_firstGridPoint found
    | none =>
      have positive : 0 < x := by
        have magnitude := encodes.magnitude
        omega
      exact ofDecimal_of_value covered positive finite (value_exactDecimal _ _)

end Format

end ModuleHost.Ieee
