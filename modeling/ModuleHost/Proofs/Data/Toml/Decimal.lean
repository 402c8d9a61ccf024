import ModuleHost.Proofs.Data.Toml.Writing
import ModuleHost.Proofs.Text.Digits

namespace ModuleHost.Data.Toml

variable {n : Int} {digits : List Char}

theorem grouped_digits (written : digits ≠ [])
    (all : ∀ c ∈ digits, Digits.isDecimal c = true) :
    grouped Digits.isDecimal digits = some digits := by
  have single : digits.splitOn '_' = [digits] :=
    List.splitOn_eq_singleton fun member => absurd (all _ member) (by decide)
  simpa [grouped, single, written] using all

theorem wholePart_write (k : Nat) : wholePart (Digits.write 10 k) = some (Digits.write 10 k) := by
  unfold wholePart
  split
  · rename_i zero
    cases Digits.write_zero_cons zero
  · exact grouped_digits Digits.write_ne_nil fun c => Digits.isDecimal_of_mem_write

theorem splitSign_decimal (n : Int) :
    splitSign (Digits.decimal n) = (decide (n < 0), Digits.write 10 n.natAbs) := by
  unfold Digits.decimal
  split
  · rename_i negative
    simp [splitSign, negative]
  · rename_i natural
    unfold splitSign
    split
    · rename_i same
      exact absurd same (Digits.write_ne_cons (by decide) _)
    · rename_i same
      exact absurd same (Digits.write_ne_cons (by decide) _)
    · simp [natural]

theorem integer_decimal (n : Int) :
    integer (Digits.decimal n) = if -2 ^ 63 ≤ n ∧ n < 2 ^ 63 then some n else none := by
  have unmarked (c : Char) (mark : Digits.isDecimal c = false) (more : List Char) :
      Digits.decimal n ≠ '0' :: c :: more := fun same =>
    have member : c ∈ (Digits.decimal n).tail := same ▸ .head more
    absurd (Digits.isDecimal_of_mem_tail member) (by simp [mark])
  have value : Ieee.digitsValue (Digits.write 10 n.natAbs) = n.natAbs := Digits.foldl_write _
  have signed : (if n < 0 then -(n.natAbs : Int) else n.natAbs) = n := by
    omega
  unfold integer
  split
  · rename_i same
    exact absurd same (unmarked 'x' (by decide) _)
  · rename_i same
    exact absurd same (unmarked 'o' (by decide) _)
  · rename_i same
    exact absurd same (unmarked 'b' (by decide) _)
  · simp only [splitSign_decimal, wholePart_write, value, decide_eq_true_eq, signed]
    rfl

theorem isNumeric_of_isDecimal {c : Char} (decimal : Digits.isDecimal c = true) :
    isNumeric c = true := by
  have digit : c.isDigit = true := by
    simp only [Digits.isDecimal, Bool.and_eq_true, decide_eq_true_eq] at decimal
    simp only [Char.isDigit, Bool.and_eq_true, decide_eq_true_eq]
    exact decimal
  simp [isNumeric, Char.isAlphanum, digit]

theorem isNumeric_of_mem_decimal {c : Char} (member : c ∈ Digits.decimal n) :
    isNumeric c = true := by
  unfold Digits.decimal at member
  split at member
  · rcases List.mem_cons.mp member with rfl | member
    · decide
    · exact isNumeric_of_isDecimal (Digits.isDecimal_of_mem_write member)
  · exact isNumeric_of_isDecimal (Digits.isDecimal_of_mem_write member)

theorem decimalFloat_digits (all : ∀ c ∈ digits, Digits.isDecimal c = true) :
    decimalFloat digits = none := by
  have without (c : Char) (other : Digits.isDecimal c = false) : c ∉ digits := fun member =>
    absurd (all c member) (by simp [other])
  have mantissa : digits.takeWhile (fun c => c ≠ 'e' && c ≠ 'E') = digits := by
    rw [← List.append_nil digits, List.takeWhile_append_of_pos, List.takeWhile_nil]
    intro c member
    have low : c ≠ 'e' := fun same => without 'e' (by decide) (same ▸ member)
    have high : c ≠ 'E' := fun same => without 'E' (by decide) (same ▸ member)
    simp [low, high]
  simp only [decimalFloat, mantissa]
  simp [without '.' (by decide)]
  split <;> rfl

theorem float_decimal (n : Int) : float (Digits.decimal n) = none := by
  have all : ∀ c ∈ Digits.write 10 n.natAbs, Digits.isDecimal c = true := fun c =>
    Digits.isDecimal_of_mem_write
  have finite : Digits.write 10 n.natAbs ≠ "inf".toList :=
    Digits.write_ne_cons (c := 'i') (by decide) _
  have number : Digits.write 10 n.natAbs ≠ "nan".toList :=
    Digits.write_ne_cons (c := 'n') (by decide) _
  simp only [float, splitSign_decimal, decimalFloat_digits all]
  rw [if_neg finite, if_neg number]

theorem eq_cons_of_after {separator : Char} {cs left : List Char}
    (taken : after separator cs = some left) : cs = separator :: left := by
  cases cs with
  | nil => cases taken
  | cons c cs =>
    simp only [after, Option.ite_none_right_eq_some, Option.some.injEq] at taken
    obtain ⟨rfl, rfl⟩ := taken
    rfl

theorem eq_drop_of_fixedDigits {count v : Nat} {cs left : List Char}
    (taken : fixedDigits count cs = some (v, left)) : left = cs.drop count := by
  simp only [fixedDigits, Option.ite_none_right_eq_some, Option.some.injEq, Prod.mk.injEq] at taken
  exact taken.2.2.symm

theorem separator_mem_of_isDateTime {cs : List Char} (dated : isDateTime cs = true) :
    '-' ∈ cs.tail ∨ ':' ∈ cs.tail := by
  have behind {count : Nat} {c : Char} {left : List Char} (same : cs.drop (count + 1) = c :: left) :
      c ∈ cs.tail := by
    have member : c ∈ cs.tail.drop count := by
      rw [List.drop_tail, same]
      exact .head left
    exact List.mem_of_mem_drop member
  unfold isDateTime at dated
  split at dated
  · have isTime := of_decide_eq_true dated
    simp only [time, hourMinute, Option.bind_eq_bind, Option.bind_eq_some_iff, Prod.exists]
      at isTime
    obtain ⟨_, ⟨hour, rest, digits, _, mark, -⟩, -⟩ := isTime
    rw [eq_drop_of_fixedDigits digits] at mark
    exact .inr (behind (eq_cons_of_after mark))
  all_goals
    rename_i isDate
    simp only [date, Option.bind_eq_bind, Option.bind_eq_some_iff, Prod.exists] at isDate
    obtain ⟨year, rest, digits, _, mark, -⟩ := isDate
    rw [eq_drop_of_fixedDigits digits] at mark
    exact .inl (behind (eq_cons_of_after mark))

theorem isDateTime_decimal (n : Int) : isDateTime (Digits.decimal n) = false := by
  by_contra dated
  rcases separator_mem_of_isDateTime (Bool.eq_true_of_not_eq_false dated) with member | member
  · exact absurd (Digits.isDecimal_of_mem_tail member) (by decide)
  · exact absurd (Digits.isDecimal_of_mem_tail member) (by decide)

theorem spells_decimal (n : Int) :
    Spells 0 (Digits.decimal n) (if -2 ^ 63 ≤ n ∧ n < 2 ^ 63 then .ok (.integer n)
      else .error (.badNumber (String.ofList (Digits.decimal n)))) := by
  have other : Digits.decimal n ≠ [] ∧ Digits.decimal n ≠ "true".toList ∧
      Digits.decimal n ≠ "false".toList := by
    refine ⟨Digits.decimal_ne_nil, ?_, ?_⟩ <;> intro same
    · have member : 'r' ∈ (Digits.decimal n).tail := by simp [same]
      exact absurd (Digits.isDecimal_of_mem_tail member) (by decide)
    · have member : 'a' ∈ (Digits.decimal n).tail := by simp [same]
      exact absurd (Digits.isDecimal_of_mem_tail member) (by decide)
  have numeric : ∀ c ∈ Digits.decimal n, isNumeric c = true := fun c => isNumeric_of_mem_decimal
  refine spells_scalar other.1 numeric fun rest ends => ?_
  rw [scalar_of_ends numeric other ends, integer_decimal, float_decimal, isDateTime_decimal]
  by_cases fits : -2 ^ 63 ≤ n ∧ n < 2 ^ 63
  · rw [if_pos fits, if_pos fits]
    rfl
  · rw [if_neg fits, if_neg fits]
    rfl

end ModuleHost.Data.Toml
