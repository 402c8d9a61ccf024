import Mathlib.Data.Nat.Digits.Defs
import Mathlib.Tactic
import ModuleHost.Proofs.Except
import ModuleHost.Proofs.Text.Digits

namespace ModuleHost.Digits

variable {base bound n d : Nat} {k : Int} {c : Char} {cs : List Char} {overflow : Fault}

def IsDigit (base : Nat) (c : Char) (d : Nat) : Prop :=
  ("0123456789abcdef".toList.take base)[d]? = some c.toLower

theorem toNat_toLower (c : Char) :
    c.toLower.toNat = if 65 ≤ c.toNat ∧ c.toNat ≤ 90 then c.toNat + 32 else c.toNat := by
  have upper : (c.val ≥ 'A'.val ∧ c.val ≤ 'Z'.val) ↔ 65 ≤ c.toNat ∧ c.toNat ≤ 90 := by
    simp only [ge_iff_le, UInt32.le_iff_toNat_le]
    rfl
  unfold Char.toLower
  split_ifs with inside range range
  · show (c.val.toNat + 32) % 2 ^ 32 = c.toNat + 32
    exact Nat.mod_eq_of_lt (Nat.lt_of_le_of_lt (Nat.add_le_add_right range.2 32) (by decide))
  · exact absurd (upper.mp inside) range
  · exact absurd (upper.mpr range) inside
  · rfl

theorem toNat_digitChar (small : d < 16) :
    (Nat.digitChar d).toNat = if d < 10 then d + 48 else d - 10 + 97 := by
  interval_cases d <;> rfl

theorem isDigit_iff (small : base ≤ 16) :
    IsDigit base c d ↔ d < base ∧ (Nat.digitChar d).toNat = c.toLower.toNat := by
  rw [IsDigit, List.getElem?_take, Char.toNat_inj]
  by_cases inside : d < base
  · have below : d < 16 := Nat.lt_of_lt_of_le inside small
    have listed : "0123456789abcdef".toList[d]? = some (Nat.digitChar d) := by
      interval_cases d <;> rfl
    rw [if_pos inside, listed, Option.some_inj]
    exact (and_iff_right inside).symm
  · simp [inside]

theorem value_eq (c : Char) :
    value c =
      if 48 ≤ c.toNat ∧ c.toNat ≤ 57 then some (c.toNat - 48)
      else if 97 ≤ c.toNat ∧ c.toNat ≤ 122 then some (c.toNat - 97 + 10)
      else if 65 ≤ c.toNat ∧ c.toNat ≤ 90 then some (c.toNat - 65 + 10)
      else none := by
  simp only [value, Char.le_def, UInt32.le_iff_toNat_le]
  rfl

theorem valueIn_eq_some (small : base ≤ 16) : valueIn base c = some d ↔ IsDigit base c d := by
  rw [isDigit_iff small, valueIn, Option.filter_eq_some_iff, decide_eq_true_eq, and_comm]
  refine and_congr_right fun inside => ?_
  rw [toNat_toLower, toNat_digitChar (Nat.lt_of_lt_of_le inside small), value_eq]
  split_ifs <;> simp <;> omega

theorem isDigit_digitChar (inside : d < base) (small : base ≤ 16) :
    IsDigit base (Nat.digitChar d) d := by
  have below : d < 16 := Nat.lt_of_lt_of_le inside small
  rw [isDigit_iff small, toNat_toLower, toNat_digitChar below]
  exact ⟨inside, by split_ifs <;> omega⟩

/-- Digits, the most significant first, and the number that they denote. -/
def Magnitude (base : Nat) (cs : List Char) (n : Nat) : Prop :=
  cs ≠ [] ∧ ∃ ds, List.Forall₂ (IsDigit base) cs ds ∧ Nat.ofDigits base ds.reverse = n

theorem ofDigits_first {ds : List Nat} (digits : List.Forall₂ (IsDigit base) cs ds) (acc : Nat) :
    Nat.ofDigits base (d :: ds).reverse + base ^ (cs.length + 1) * acc =
      Nat.ofDigits base ds.reverse + base ^ cs.length * (base * acc + d) := by
  rw [List.reverse_cons, Nat.ofDigits_append, Nat.ofDigits_singleton, List.length_reverse,
    ← digits.length_eq]
  ring

theorem readMagnitude_eq_ok (small : base ≤ 16) {acc : Nat} (within : acc ≤ bound) :
    readMagnitude base bound overflow acc cs = .ok n ↔
      n ≤ bound ∧ ∃ ds, List.Forall₂ (IsDigit base) cs ds ∧
        Nat.ofDigits base ds.reverse + base ^ cs.length * acc = n := by
  induction cs generalizing acc with
  | nil =>
    rw [readMagnitude, Except.ok.injEq]
    constructor
    · rintro rfl
      exact ⟨within, [], .nil, by simp⟩
    · rintro ⟨-, ds, digits, rfl⟩
      cases digits
      simp
  | cons c cs ih =>
    unfold readMagnitude
    constructor
    · intro reads
      cases here : valueIn base c with
      | none => simp [here] at reads
      | some d =>
        simp only [here] at reads
        split at reads
        · rename_i next
          obtain ⟨most, ds, digits, denoted⟩ := (ih next).mp reads
          exact ⟨most, d :: ds, .cons ((valueIn_eq_some small).mp here) digits,
            (ofDigits_first digits acc).trans denoted⟩
        · cases reads
    · rintro ⟨most, _, all, denoted⟩
      obtain ⟨d, ds, digit, digits, rfl⟩ := List.forall₂_cons_left_iff.mp all
      rw [List.length_cons, ofDigits_first digits] at denoted
      have positive : 0 < base ^ cs.length :=
        Nat.pow_pos (Nat.zero_lt_of_lt ((isDigit_iff small).mp digit).1)
      -- The bound holds of what is read so far, since more digits only make it greater.
      have next : base * acc + d ≤ bound :=
        calc base * acc + d ≤ base ^ cs.length * (base * acc + d) :=
              Nat.le_mul_of_pos_left _ positive
          _ ≤ n := by omega
          _ ≤ bound := most
      simp only [(valueIn_eq_some small).mpr digit, if_pos next]
      exact (ih next).mpr ⟨most, ds, digits, denoted⟩

theorem readMagnitude_zero_eq_ok (small : base ≤ 16) (written : cs ≠ []) :
    readMagnitude base bound overflow 0 cs = .ok n ↔ Magnitude base cs n ∧ n ≤ bound := by
  rw [readMagnitude_eq_ok small (Nat.zero_le _), Magnitude, and_iff_right written, and_comm]
  simp only [Nat.mul_zero, Nat.add_zero]

inductive Sign where
  | none
  | plus
  | minus
  deriving DecidableEq

namespace Sign

def text : Sign → List Char
  | none => []
  | plus => ['+']
  | minus => ['-']

def isNegative (s : Sign) : Bool :=
  s = minus

def split : List Char → Sign × List Char
  | '-' :: rest => (minus, rest)
  | '+' :: rest => (plus, rest)
  | rest => (none, rest)

@[elab_as_elim]
theorem cases_text {motive : List Char → Prop} (cs : List Char)
    (minus : ∀ rest, motive ('-' :: rest)) (plus : ∀ rest, motive ('+' :: rest))
    (plain : ∀ cs, (∀ c ∈ cs.head?, c ≠ '+' ∧ c ≠ '-') → motive cs) : motive cs := by
  cases cs with
  | nil => exact plain [] nofun
  | cons c rest =>
    by_cases isMinus : c = '-'
    · exact isMinus ▸ minus rest
    · by_cases isPlus : c = '+'
      · exact isPlus ▸ plus rest
      · refine plain (c :: rest) fun c' first => ?_
        obtain rfl := Option.some.inj first
        exact ⟨isPlus, isMinus⟩

theorem split_of_unsigned (unsigned : ∀ c ∈ cs.head?, c ≠ '+' ∧ c ≠ '-') :
    split cs = (none, cs) := by
  cases cs with
  | nil => rfl
  | cons c rest =>
    obtain ⟨plus, minus⟩ := unsigned c rfl
    simp [split, plus, minus]

theorem text_split (cs : List Char) : (split cs).1.text ++ (split cs).2 = cs := by
  cases cs using cases_text with
  | minus rest => rfl
  | plus rest => rfl
  | plain cs unsigned =>
    rw [split_of_unsigned unsigned]
    rfl

theorem split_text (s : Sign) (unsigned : ∀ c ∈ cs.head?, c ≠ '+' ∧ c ≠ '-') :
    split (s.text ++ cs) = (s, cs) := by
  cases s with
  | plus => rfl
  | minus => rfl
  | none => exact split_of_unsigned unsigned

end Sign

def Unsigned (base : Nat) (cs : List Char) (n : Nat) : Prop :=
  ∃ (s : Sign) (digits : List Char), cs = s.text ++ digits ∧ s.isNegative = false ∧
    Magnitude base digits n

def Signed (cs : List Char) (k : Int) : Prop :=
  ∃ (s : Sign) (digits : List Char) (n : Nat), cs = s.text ++ digits ∧ Magnitude 10 digits n ∧
    k = if s.isNegative then -(n : Int) else n

theorem Magnitude.unsigned (magnitude : Magnitude base cs n) (small : base ≤ 16) :
    ∀ c ∈ cs.head?, c ≠ '+' ∧ c ≠ '-' := by
  obtain ⟨written, _, all, -⟩ := magnitude
  obtain ⟨c, rest, rfl⟩ := List.exists_cons_of_ne_nil written
  obtain ⟨d, -, digit, -⟩ := List.forall₂_cons_left_iff.mp all
  have value := (valueIn_eq_some small).mpr digit
  intro c' same
  obtain rfl := Option.some.inj same
  constructor <;> rintro rfl <;> cases value

theorem readUnsigned_eq_ok (small : base ≤ 16) :
    readUnsigned base bound cs = .ok n ↔ Unsigned base cs n ∧ n ≤ bound := by
  constructor
  · intro reads
    unfold readUnsigned at reads
    split at reads
    · cases reads
    · cases reads
    · rename_i digits some
      obtain ⟨magnitude, most⟩ := (readMagnitude_zero_eq_ok small some).mp reads
      exact ⟨⟨.plus, digits, rfl, rfl, magnitude⟩, most⟩
    · rename_i some _ _
      obtain ⟨magnitude, most⟩ := (readMagnitude_zero_eq_ok small some).mp reads
      exact ⟨⟨.none, cs, rfl, rfl, magnitude⟩, most⟩
  · rintro ⟨⟨s, digits, rfl, positive, magnitude⟩, most⟩
    have reads : readMagnitude base bound .tooLarge 0 digits = .ok n :=
      (readMagnitude_zero_eq_ok small magnitude.1).mpr ⟨magnitude, most⟩
    have unsigned := magnitude.unsigned small
    obtain ⟨c, others, rfl⟩ := List.exists_cons_of_ne_nil magnitude.1
    cases s with
    | minus => cases positive
    | plus => exact reads
    | none => simpa [readUnsigned, Sign.text, (unsigned c rfl).1] using reads

theorem readSigned_eq (bound : Nat) (cs : List Char) :
    readSigned 10 bound cs =
      if (Sign.split cs).2 = [] then .error (if cs = [] then .empty else .invalidDigit)
      else if (Sign.split cs).1.isNegative then
        (readMagnitude 10 (bound + 1) .tooSmall 0 (Sign.split cs).2).map fun n => -Int.ofNat n
      else (readMagnitude 10 bound .tooLarge 0 (Sign.split cs).2).map Int.ofNat := by
  cases cs using Sign.cases_text with
  | minus rest => cases rest <;> rfl
  | plus rest => cases rest <;> rfl
  | plain cs unsigned =>
    rw [Sign.split_of_unsigned unsigned]
    cases cs with
    | nil => rfl
    | cons c rest =>
      obtain ⟨plus, minus⟩ := unsigned c rfl
      simp [readSigned, plus, minus, Sign.isNegative]

theorem readSigned_eq_ok :
    readSigned 10 bound cs = .ok k ↔ Signed cs k ∧ -(bound : Int) - 1 ≤ k ∧ k ≤ bound := by
  rw [readSigned_eq]
  constructor
  · intro reads
    split_ifs at reads with written negative
    · obtain ⟨n, taken, rfl⟩ := map_eq_ok.mp reads
      obtain ⟨magnitude, most⟩ := (readMagnitude_zero_eq_ok (by decide) written).mp taken
      refine ⟨⟨_, _, n, (Sign.text_split cs).symm, magnitude, (if_pos negative).symm⟩, ?_⟩
      rw [Int.ofNat_eq_natCast]
      omega
    · obtain ⟨n, taken, rfl⟩ := map_eq_ok.mp reads
      obtain ⟨magnitude, most⟩ := (readMagnitude_zero_eq_ok (by decide) written).mp taken
      refine ⟨⟨_, _, n, (Sign.text_split cs).symm, magnitude, (if_neg negative).symm⟩, ?_⟩
      rw [Int.ofNat_eq_natCast]
      omega
  · rintro ⟨⟨s, digits, n, rfl, magnitude, rfl⟩, least, most⟩
    rw [Sign.split_text s (magnitude.unsigned (by decide)), if_neg magnitude.1]
    dsimp only
    have reads {most : Nat} {fault : Fault} (within : n ≤ most) :
        readMagnitude 10 most fault 0 digits = .ok n :=
      (readMagnitude_zero_eq_ok (by decide) magnitude.1).mpr ⟨magnitude, within⟩
    split_ifs at least most ⊢
    · exact map_eq_ok.mpr ⟨n, reads (by omega), rfl⟩
    · exact map_eq_ok.mpr ⟨n, reads (by omega), rfl⟩

theorem magnitude_append_digit (more : Magnitude base cs n) (digit : IsDigit base c d) :
    Magnitude base (cs ++ [c]) (base * n + d) := by
  obtain ⟨-, ds, digits, rfl⟩ := more
  refine ⟨by simp, ds ++ [d], List.rel_append digits (.cons digit .nil), ?_⟩
  rw [List.reverse_append, List.reverse_singleton, List.singleton_append, Nat.ofDigits_cons]
  ring

theorem magnitude_write (base : Nat) (least : 1 < base) (small : base ≤ 16) (n : Nat) :
    Magnitude base (write base n) n := by
  induction n using Nat.strongRecOn with
  | ind n ih =>
    by_cases single : n < base
    · rw [write, Nat.toDigits_of_lt_base single]
      exact ⟨List.cons_ne_nil _ _, [n], .cons (isDigit_digitChar single small) .nil, by simp⟩
    · have several : base ≤ n := Nat.le_of_not_lt single
      have others := ih (n / base) (Nat.div_lt_self (by omega) least)
      have last := isDigit_digitChar (Nat.mod_lt n (by omega)) small
      rw [write, Nat.toDigits_of_base_le least several]
      have both := magnitude_append_digit others last
      rwa [Nat.div_add_mod] at both

theorem magnitude_zeros (positive : 0 < base) (small : base ≤ 16)
    (magnitude : Magnitude base cs n) (count : Nat) :
    Magnitude base (List.replicate count '0' ++ cs) n := by
  induction count with
  | zero => exact magnitude
  | succ count ih =>
    obtain ⟨-, ds, digits, denoted⟩ := ih
    refine ⟨List.cons_ne_nil _ _, 0 :: ds, .cons (isDigit_digitChar positive small) digits, ?_⟩
    rw [List.reverse_cons, Nat.ofDigits_append_zero, denoted]

theorem magnitude_writePadded (least : 1 < base) (small : base ≤ 16) (width n : Nat) :
    Magnitude base (writePadded base width n) n :=
  magnitude_zeros (Nat.zero_lt_of_lt least) small (magnitude_write base least small n) _

theorem signed_decimal (k : Int) : Signed (decimal k) k := by
  have magnitude := magnitude_write 10 (by decide) (by decide) k.natAbs
  unfold decimal
  split_ifs with negative
  · refine ⟨.minus, _, _, rfl, magnitude, ?_⟩
    show k = -(k.natAbs : Int)
    omega
  · refine ⟨.none, _, _, rfl, magnitude, ?_⟩
    show k = (k.natAbs : Int)
    omega

theorem toList_toString (k : Int) : (toString k).toList = decimal k := by
  rw [Int.toString_eq_repr]
  cases k with
  | ofNat n =>
    show (Nat.repr n).toList = decimal n
    simp [decimal, write, Nat.repr_eq_ofList_toDigits]
  | negSucc n =>
    show ("-" ++ Nat.repr (n + 1)).toList = decimal (Int.negSucc n)
    simp [decimal, write, Nat.repr_eq_ofList_toDigits]

end ModuleHost.Digits
