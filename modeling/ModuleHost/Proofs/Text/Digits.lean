import Mathlib.Tactic
import ModuleHost.Text.Digits

namespace ModuleHost.Digits

variable {n : Nat} {k : Int} {c : Char}

theorem isDecimal_of_mem_write (member : c ∈ write 10 n) : isDecimal c = true := by
  have digit := Nat.isDigit_of_mem_toDigits (by decide) (by decide) member
  simp only [Char.isDigit, Bool.and_eq_true, decide_eq_true_eq] at digit
  simp only [isDecimal, Bool.and_eq_true, decide_eq_true_eq]
  exact digit

theorem write_ne_nil : write 10 n ≠ [] :=
  Nat.toDigits_ne_nil

theorem write_ne_cons (other : isDecimal c = false) (more : List Char) :
    write 10 n ≠ c :: more := by
  intro same
  have member : c ∈ write 10 n := by
    rw [same]
    exact .head more
  exact absurd (isDecimal_of_mem_write member) (by simp [other])

theorem foldl_write (n : Nat) :
    (write 10 n).foldl (fun acc c => 10 * acc + (c.toNat - '0'.toNat)) 0 = n := by
  rw [write, ← Nat.ofDigitChars_eq_foldl]
  exact Nat.ofDigitChars_toDigits (by decide) (by decide)

theorem write_zero_cons {more : List Char} (zero : write 10 n = '0' :: more) : more = [] := by
  induction n using Nat.strongRecOn generalizing more with
  | ind n ih =>
    by_cases small : n < 10
    · rw [write, Nat.toDigits_of_lt_base small] at zero
      exact (List.cons.inj zero).2.symm
    · have large : 10 ≤ n := Nat.le_of_not_lt small
      rw [write, Nat.toDigits_of_base_le (by decide) large] at zero
      obtain ⟨first, others, same⟩ := List.exists_cons_of_ne_nil (write_ne_nil (n := n / 10))
      rw [show Nat.toDigits 10 (n / 10) = write 10 (n / 10) from rfl, same] at zero
      obtain rfl : first = '0' := (List.cons.inj zero).1
      -- What stands before the last digit is zero, so there is nothing before it.
      have single := ih (n / 10) (by omega) same
      have value := foldl_write (n / 10)
      rw [same, single] at value
      simp at value
      omega

def decimal (n : Int) : List Char :=
  if n < 0 then '-' :: write 10 n.natAbs else write 10 n.natAbs

theorem decimal_ne_nil : decimal k ≠ [] := by
  unfold decimal
  split
  · exact List.cons_ne_nil _ _
  · exact write_ne_nil

theorem isDecimal_of_mem_tail (member : c ∈ (decimal k).tail) :
    isDecimal c = true := by
  unfold decimal at member
  split at member
  · exact isDecimal_of_mem_write member
  · exact isDecimal_of_mem_write (List.mem_of_mem_tail member)

end ModuleHost.Digits
