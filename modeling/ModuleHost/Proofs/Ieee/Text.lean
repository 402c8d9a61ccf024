import ModuleHost.Proofs.Ieee.Decimal
import ModuleHost.Proofs.List
import ModuleHost.Proofs.Text.Numerals

namespace ModuleHost.Ieee

variable {f : Format} {d : Decimal} {cs : List Char} {k : Int} {x m bits : Nat}

/-! ## Exponents -/

structure Exponent where
  mark : Char
  sign : Digits.Sign
  digits : List Char

namespace Exponent

def text (e : Exponent) : List Char :=
  e.mark :: (e.sign.text ++ e.digits)

structure WellFormed (e : Exponent) : Prop where
  mark : e.mark = 'e' ∨ e.mark = 'E'
  written : e.digits ≠ []
  decimal : ∀ c ∈ e.digits, Digits.isDecimal c = true

def value (e : Exponent) : Int :=
  if e.sign.isNegative then -(digitsValue e.digits : Int) else digitsValue e.digits

end Exponent

theorem ne_of_isDecimal {c other : Char} (decimal : Digits.isDecimal c = true)
    (excluded : Digits.isDecimal other = false) : c ≠ other := by
  rintro rfl
  cases decimal.symm.trans excluded

theorem unsigned_of_decimal (decimal : ∀ c ∈ cs, Digits.isDecimal c = true) :
    ∀ c ∈ cs.head?, c ≠ '+' ∧ c ≠ '-' := fun c first =>
  have digit := decimal c (List.mem_of_mem_head? first)
  ⟨ne_of_isDecimal digit (by decide), ne_of_isDecimal digit (by decide)⟩

theorem readExponent_cons (mark : Char) (cs : List Char) :
    readExponent (mark :: cs) =
      if mark = 'e' ∨ mark = 'E' then
        if (Digits.Sign.split cs).2.isEmpty || !(Digits.Sign.split cs).2.all Digits.isDecimal then
          none
        else some ((Exponent.mk mark (Digits.Sign.split cs).1 (Digits.Sign.split cs).2).value)
      else none := by
  cases cs using Digits.Sign.cases_text with
  | minus rest => rfl
  | plus rest => rfl
  | plain cs unsigned =>
    rw [Digits.Sign.split_of_unsigned unsigned]
    cases cs with
    | nil => rfl
    | cons c rest =>
      obtain ⟨plus, minus⟩ := unsigned c rfl
      simp [readExponent, plus, minus, Exponent.value, Digits.Sign.isNegative]

theorem readExponent_text {e : Exponent} (formed : e.WellFormed) :
    readExponent e.text = some e.value := by
  have all : e.digits.all Digits.isDecimal = true := List.all_eq_true.mpr formed.decimal
  rw [Exponent.text, readExponent_cons, if_pos formed.mark,
    Digits.Sign.split_text e.sign (unsigned_of_decimal formed.decimal)]
  simp [formed.written, all]

theorem exists_of_readExponent (reads : readExponent cs = some k) :
    ∃ e : Option Exponent, (∀ e' ∈ e, e'.WellFormed) ∧ e.elim [] Exponent.text = cs ∧
      e.elim 0 Exponent.value = k := by
  cases cs with
  | nil => exact ⟨none, nofun, rfl, Option.some.inj reads⟩
  | cons mark rest =>
    rw [readExponent_cons] at reads
    split_ifs at reads with isMark digits
    simp only [Bool.or_eq_true, List.isEmpty_iff, Bool.not_eq_true', not_or,
      Bool.not_eq_false, List.all_eq_true] at digits
    let split := Digits.Sign.split rest
    have formed : (Exponent.mk mark split.1 split.2).WellFormed := ⟨isMark, digits.1, digits.2⟩
    refine ⟨some _, fun e' member => Option.mem_some.mp member ▸ formed, ?_, Option.some.inj reads⟩
    exact congrArg (mark :: ·) (Digits.Sign.text_split rest)

/-! ## Numbers -/

/-- A written number without its sign: digits, perhaps a point and more digits, and perhaps an
exponent. -/
structure Numeral where
  whole : List Char
  fraction : Option (List Char)
  exponent : Option Exponent

namespace Numeral

def digits (n : Numeral) : List Char :=
  n.whole ++ n.fraction.getD []

def text (n : Numeral) : List Char :=
  n.whole ++ (n.fraction.elim [] ('.' :: ·) ++ n.exponent.elim [] Exponent.text)

structure WellFormed (n : Numeral) : Prop where
  written : n.digits ≠ []
  decimal : ∀ c ∈ n.digits, Digits.isDecimal c = true
  exponent : ∀ e ∈ n.exponent, e.WellFormed

def decimal (n : Numeral) : Decimal :=
  ⟨digitsValue n.digits, n.exponent.elim 0 Exponent.value - ((n.fraction.getD []).length : Int)⟩

end Numeral

def splitPoint : List Char → Option (List Char) × List Char
  | '.' :: more => (some (more.takeWhile Digits.isDecimal), more.dropWhile Digits.isDecimal)
  | rest => (none, rest)

theorem splitPoint_of_head (head : ∀ c ∈ cs.head?, c ≠ '.') : splitPoint cs = (none, cs) := by
  cases cs with
  | nil => rfl
  | cons c rest =>
    have point : c ≠ '.' := head c rfl
    simp [splitPoint, point]

theorem text_splitPoint (cs : List Char) :
    (splitPoint cs).1.elim [] ('.' :: ·) ++ (splitPoint cs).2 = cs := by
  unfold splitPoint
  split
  · exact congrArg ('.' :: ·) List.takeWhile_append_dropWhile
  · rfl

theorem splitPoint_text {fraction : Option (List Char)} {rest : List Char}
    (decimal : ∀ c ∈ fraction.getD [], Digits.isDecimal c = true)
    (stops : ∀ c ∈ rest.head?, Digits.isDecimal c = false ∧ c ≠ '.') :
    splitPoint (fraction.elim [] ('.' :: ·) ++ rest) = (fraction, rest) := by
  cases fraction with
  | none => exact splitPoint_of_head fun c first => (stops c first).2
  | some ds =>
    obtain ⟨taken, left⟩ := span_append decimal fun c first => (stops c first).1
    exact Prod.ext (congrArg some taken) left

theorem decimal_splitPoint (cs : List Char) :
    ∀ c ∈ (splitPoint cs).1.getD [], Digits.isDecimal c = true := by
  unfold splitPoint
  split
  · exact List.all_eq_true.mp List.all_takeWhile
  · exact nofun

theorem readDecimal_eq (cs : List Char) :
    readDecimal cs =
      if cs.takeWhile Digits.isDecimal ++
          (splitPoint (cs.dropWhile Digits.isDecimal)).1.getD [] = [] then none
      else
        (readExponent (splitPoint (cs.dropWhile Digits.isDecimal)).2).map fun e =>
          ⟨digitsValue (cs.takeWhile Digits.isDecimal ++
              (splitPoint (cs.dropWhile Digits.isDecimal)).1.getD []),
            e - (((splitPoint (cs.dropWhile Digits.isDecimal)).1.getD []).length : Int)⟩ := by
  unfold readDecimal
  generalize cs.takeWhile Digits.isDecimal = whole
  generalize cs.dropWhile Digits.isDecimal = rest
  simp only [List.append_eq_nil_iff]
  cases rest with
  | nil => simp [splitPoint]
  | cons c rest =>
    by_cases point : c = '.'
    · subst point
      simp [splitPoint]
    · simp [splitPoint, point]

theorem Numeral.WellFormed.stops {n : Numeral} (formed : n.WellFormed) :
    ∀ c ∈ (n.exponent.elim [] Exponent.text).head?, Digits.isDecimal c = false ∧ c ≠ '.' := by
  intro c first
  cases here : n.exponent with
  | none => simp [here] at first
  | some e =>
    obtain rfl : e.mark = c := by simpa [here, Exponent.text] using first
    rcases (formed.exponent e here).mark with mark | mark <;> rw [mark] <;> decide

theorem Numeral.WellFormed.readExponent {n : Numeral} (formed : n.WellFormed) :
    readExponent (n.exponent.elim [] Exponent.text) = some (n.exponent.elim 0 Exponent.value) := by
  cases here : n.exponent with
  | none => rfl
  | some e => exact readExponent_text (formed.exponent e here)

theorem readDecimal_text {n : Numeral} (formed : n.WellFormed) :
    readDecimal n.text = some n.decimal := by
  have whole : ∀ c ∈ n.whole, Digits.isDecimal c = true := fun c member =>
    formed.decimal c (List.mem_append_left _ member)
  have fraction : ∀ c ∈ n.fraction.getD [], Digits.isDecimal c = true := fun c member =>
    formed.decimal c (List.mem_append_right _ member)
  have ends : ∀ c ∈ (n.fraction.elim [] ('.' :: ·) ++ n.exponent.elim [] Exponent.text).head?,
      Digits.isDecimal c = false := by
    cases here : n.fraction with
    | none => exact fun c first => (formed.stops c first).1
    | some ds =>
      intro c first
      obtain rfl : '.' = c := by simpa using first
      decide
  obtain ⟨taken, left⟩ := span_append whole ends
  rw [readDecimal_eq, Numeral.text, taken, left, splitPoint_text fraction formed.stops]
  exact (if_neg formed.written).trans (congrArg (Option.map _) formed.readExponent)

theorem exists_of_readDecimal (reads : readDecimal cs = some d) :
    ∃ n : Numeral, n.WellFormed ∧ n.text = cs ∧ n.decimal = d := by
  rw [readDecimal_eq] at reads
  split_ifs at reads with written
  obtain ⟨k, exponent, rfl⟩ := Option.map_eq_some_iff.mp reads
  obtain ⟨e, formed, text, rfl⟩ := exists_of_readExponent exponent
  refine ⟨⟨cs.takeWhile Digits.isDecimal, (splitPoint (cs.dropWhile Digits.isDecimal)).1, e⟩,
    ⟨written, fun c member => ?_, formed⟩, ?_, rfl⟩
  · rcases List.mem_append.mp member with early | late
    · exact List.all_eq_true.mp List.all_takeWhile c early
    · exact decimal_splitPoint _ c late
  · rw [Numeral.text, text, text_splitPoint, List.takeWhile_append_dropWhile]

/-! ## Magnitudes -/

namespace Format

/-- A text without a sign, and the magnitude that it stands for. -/
inductive Spells (f : Format) : List Char → Nat → Prop
  | infinity {cs : List Char} (name : cs.map Char.toLower = "inf".toList ∨
      cs.map Char.toLower = "infinity".toList) : Spells f cs f.infinity
  | nan {cs : List Char} (name : cs.map Char.toLower = "nan".toList) : Spells f cs f.quietNaN
  | number {n : Numeral} (formed : n.WellFormed) : Spells f n.text (f.ofDecimal n.decimal)

theorem head_text {n : Numeral} (formed : n.WellFormed) :
    ∀ c ∈ n.text.head?, Digits.isDecimal c = true ∨ c = '.' := by
  obtain ⟨whole, fraction, exponent⟩ := n
  intro c first
  cases whole with
  | cons c' rest =>
    obtain rfl : c' = c := Option.some.inj first
    exact .inl (formed.decimal c' (.head _))
  | nil =>
    cases fraction with
    | none => exact absurd rfl formed.written
    | some ds => exact .inr (Option.some.inj first).symm

theorem toLower_ne {c letter : Char} (first : Digits.isDecimal c = true ∨ c = '.')
    (high : 57 < letter.toNat) : c.toLower ≠ letter := by
  have low : c.toNat ≤ 57 := by
    rcases first with digit | rfl
    · simp only [Digits.isDecimal, Bool.and_eq_true, decide_eq_true_eq, Char.le_def,
        UInt32.le_iff_toNat_le] at digit
      exact digit.2
    · decide
  rintro rfl
  rw [Digits.toNat_toLower, if_neg (by omega)] at high
  omega

theorem ne_of_letter {n : Numeral} (formed : n.WellFormed) {name : List Char}
    (letter : name.head?.any (57 < ·.toNat) = true) : n.text.map Char.toLower ≠ name := by
  rintro rfl
  cases text : n.text with
  | nil => simp [text] at letter
  | cons c rest =>
    have high : 57 < c.toLower.toNat := by simpa [text] using letter
    exact toLower_ne (head_text formed c (by rw [text]; rfl)) high rfl

theorem readMagnitude_eq_some : f.readMagnitude cs = some m ↔ f.Spells cs m := by
  constructor
  · intro reads
    unfold readMagnitude at reads
    dsimp only at reads
    split_ifs at reads with infinite invalid
    · exact Option.some.inj reads ▸ .infinity infinite
    · exact Option.some.inj reads ▸ .nan invalid
    · obtain ⟨d, number, rfl⟩ := Option.map_eq_some_iff.mp reads
      obtain ⟨n, formed, rfl, rfl⟩ := exists_of_readDecimal number
      exact .number formed
  · intro spells
    unfold readMagnitude
    dsimp only
    cases spells with
    | infinity name => rw [if_pos name]
    | nan name =>
      rw [name, if_neg (by decide), if_pos rfl]
    | @number n formed =>
      have names : ¬ (n.text.map Char.toLower = "inf".toList ∨
          n.text.map Char.toLower = "infinity".toList) :=
        not_or.mpr ⟨ne_of_letter formed (by decide), ne_of_letter formed (by decide)⟩
      rw [if_neg names, if_neg (ne_of_letter formed (by decide)), readDecimal_text formed,
        Option.map_some]

theorem unsigned_of_letter {name : List Char} (same : cs.map Char.toLower = name)
    (letter : name.head?.any (57 < ·.toNat) = true) : ∀ c ∈ cs.head?, c ≠ '+' ∧ c ≠ '-' := by
  subst same
  intro c first
  rw [List.head?_map, Option.mem_def.mp first] at letter
  constructor <;> rintro rfl <;> exact absurd letter (by decide)

theorem Spells.unsigned (spells : f.Spells cs m) : ∀ c ∈ cs.head?, c ≠ '+' ∧ c ≠ '-' := by
  cases spells with
  | infinity name =>
    rcases name with inf | infinity
    · exact unsigned_of_letter inf (by decide)
    · exact unsigned_of_letter infinity (by decide)
  | nan name => exact unsigned_of_letter name (by decide)
  | number formed =>
    intro c first
    rcases head_text formed c first with digit | rfl
    · exact ⟨ne_of_isDecimal digit (by decide), ne_of_isDecimal digit (by decide)⟩
    · decide

/-! ## Floats -/

theorem read_eq (f : Format) (cs : List Char) :
    f.read cs =
      if cs = [] then .error .empty
      else
        match f.readMagnitude (Digits.Sign.split cs).2 with
        | some m => .ok (f.withSign (Digits.Sign.split cs).1.isNegative m)
        | none => .error .malformed := by
  cases cs using Digits.Sign.cases_text with
  | minus rest => rfl
  | plus rest => rfl
  | plain cs unsigned =>
    rw [Digits.Sign.split_of_unsigned unsigned]
    cases cs with
    | nil => rfl
    | cons c rest =>
      obtain ⟨plus, minus⟩ := unsigned c rfl
      cases found : f.readMagnitude (c :: rest) <;>
        simp [read, plus, minus, found, Digits.Sign.isNegative]

def SpellsSigned (f : Format) (cs : List Char) (bits : Nat) : Prop :=
  ∃ (s : Digits.Sign) (body : List Char) (m : Nat),
    cs = s.text ++ body ∧ f.Spells body m ∧ bits = f.withSign s.isNegative m

theorem read_eq_ok : f.read cs = .ok bits ↔ f.SpellsSigned cs bits := by
  rw [read_eq]
  constructor
  · intro reads
    split_ifs at reads
    split at reads
    · rename_i m magnitude
      exact ⟨_, _, m, (Digits.Sign.text_split cs).symm, readMagnitude_eq_some.mp magnitude,
        (Except.ok.inj reads).symm⟩
    · cases reads
  · rintro ⟨s, body, m, rfl, spells, rfl⟩
    have written : s.text ++ body ≠ [] := by
      rintro blank
      rw [(List.append_eq_nil_iff.mp blank).2, ← readMagnitude_eq_some] at spells
      cases spells
    rw [if_neg written, Digits.Sign.split_text s spells.unsigned]
    simp only [readMagnitude_eq_some.mpr spells]

/-! ## Written floats -/

theorem digitsValue_zeros (count : Nat) (ds : List Char) :
    digitsValue (List.replicate count '0' ++ ds) = digitsValue ds := by
  induction count with
  | zero => rfl
  | succ count ih => exact ih

theorem digitsValue_append_zeros (ds : List Char) (count : Nat) :
    digitsValue (ds ++ List.replicate count '0') = digitsValue ds * 10 ^ count := by
  induction count with
  | zero => simp
  | succ count ih =>
    rw [List.replicate_succ', ← List.append_assoc, digitsValue, List.foldl_append, ← digitsValue,
      ih, pow_succ]
    simp
    ring

theorem isDecimal_of_mem_zeros {c : Char} {count : Nat} (member : c ∈ List.replicate count '0') :
    Digits.isDecimal c = true :=
  List.eq_of_mem_replicate member ▸ rfl

theorem digitsValue_write (k : Nat) : digitsValue (Digits.write 10 k) = k :=
  Digits.foldl_write k

theorem exists_numeral_of_ofNat (digits e : Nat) :
    ∃ n : Numeral, n.WellFormed ∧ n.text = Decimal.write ⟨digits, .ofNat e⟩ ∧
      n.decimal.value = Decimal.value ⟨digits, .ofNat e⟩ := by
  obtain ⟨k, written, same⟩ : ∃ k, Decimal.write ⟨digits, .ofNat e⟩ =
      Digits.write 10 digits ++ List.replicate k '0' ∧ digits * 10 ^ k = digits * 10 ^ e := by
    by_cases zero : digits = 0
    · exact ⟨0, by simp [Decimal.write, zero], by simp [zero]⟩
    · exact ⟨e, by simp [Decimal.write, zero], rfl⟩
  let n : Numeral := ⟨Digits.write 10 digits ++ List.replicate k '0', none, none⟩
  have all : n.digits = Digits.write 10 digits ++ List.replicate k '0' := List.append_nil _
  refine ⟨n, ⟨?_, fun c member => ?_, nofun⟩, ?_, ?_⟩
  · rw [all]
    exact List.append_ne_nil_of_left_ne_nil Digits.write_ne_nil _
  · rw [all] at member
    exact (List.mem_append.mp member).elim Digits.isDecimal_of_mem_write isDecimal_of_mem_zeros
  · rw [written]
    exact List.append_nil _
  · show (digitsValue n.digits : ℚ) * 10 ^ (0 : Int) = digits * 10 ^ (e : Int)
    rw [all, digitsValue_append_zeros, digitsValue_write, same, zpow_zero, mul_one, zpow_natCast]
    push_cast
    rfl

theorem exists_numeral_of_negSucc (digits e : Nat) :
    ∃ n : Numeral, n.WellFormed ∧ n.text = Decimal.write ⟨digits, .negSucc e⟩ ∧
      n.decimal.value = Decimal.value ⟨digits, .negSucc e⟩ := by
  let padded := (Digits.write 10 digits).leftpad (e + 1 + 1) '0'
  have long : e + 1 + 1 ≤ padded.length := by
    rw [List.length_leftpad]
    exact Nat.le_max_left _ _
  let n : Numeral :=
    ⟨padded.take (padded.length - (e + 1)), some (padded.drop (padded.length - (e + 1))), none⟩
  have all : n.digits = padded := List.take_append_drop _ padded
  have places : (padded.drop (padded.length - (e + 1))).length = e + 1 := by
    rw [List.length_drop]
    omega
  refine ⟨n, ⟨?_, fun c member => ?_, nofun⟩, ?_, ?_⟩
  · rw [all, ← List.length_pos_iff_ne_nil]
    omega
  · rw [all] at member
    exact (List.mem_append.mp member).elim isDecimal_of_mem_zeros Digits.isDecimal_of_mem_write
  · exact congrArg (padded.take _ ++ ·) (List.append_nil _)
  · show (digitsValue n.digits : ℚ) * 10 ^ (0 - ((padded.drop _).length : Int)) =
      digits * 10 ^ (Int.negSucc e)
    have unpadded : digitsValue padded = digits :=
      (digitsValue_zeros _ _).trans (digitsValue_write digits)
    rw [all, places, unpadded, zero_sub]
    rfl

theorem exists_numeral (d : Decimal) :
    ∃ n : Numeral, n.WellFormed ∧ n.text = d.write ∧ n.decimal.value = d.value := by
  obtain ⟨digits, exponent⟩ := d
  cases exponent with
  | ofNat e => exact exists_numeral_of_ofNat digits e
  | negSucc e => exact exists_numeral_of_negSucc digits e

theorem spells_write (covered : f.Covered) (finite : x ≤ f.infinity) :
    f.Spells (f.shortest x).write x := by
  obtain ⟨n, formed, text, value⟩ := exists_numeral (f.shortest x)
  have spells := Spells.number (f := f) formed
  rwa [text, ofDecimal_congr covered value, ofDecimal_shortest covered finite] at spells

theorem spells_body (covered : f.Covered) (number : ¬ f.isNaN bits = true) :
    f.Spells (if f.isInfinite bits then "inf".toList else (f.shortest (f.magnitude bits)).write)
      (f.magnitude bits) := by
  simp only [isNaN, decide_eq_true_eq, Nat.not_lt] at number
  split_ifs with infinite
  · rw [of_decide_eq_true infinite]
    exact .infinity (.inl (by decide))
  · exact spells_write covered number

theorem withSign_magnitude (fits : f.Fits bits) :
    f.withSign (f.isNegative bits) (f.magnitude bits) = bits := by
  have bound : bits < 2 * f.signBit := fits
  unfold withSign isNegative magnitude
  by_cases negative : f.signBit ≤ bits
  · rw [if_pos (decide_eq_true negative), Nat.mod_eq_sub_mod negative,
      Nat.mod_eq_of_lt (by omega)]
    omega
  · rw [if_neg (by simpa using negative), Nat.mod_eq_of_lt (Nat.lt_of_not_le negative)]

theorem read_write (covered : f.Covered) (fits : f.Fits bits) (number : ¬ f.isNaN bits = true) :
    f.read (f.write bits) = .ok bits := by
  have spells := spells_body covered number
  have whole := withSign_magnitude fits
  rw [read_eq_ok, write, if_neg number]
  cases negative : f.isNegative bits with
  | true =>
    rw [negative] at whole
    exact ⟨.minus, _, _, rfl, spells, whole.symm⟩
  | false =>
    rw [negative] at whole
    exact ⟨.none, _, _, rfl, spells, whole.symm⟩

theorem read_write_nan (nan : f.isNaN bits = true) : f.read (f.write bits) = .ok f.quietNaN := by
  rw [read_eq_ok, write, if_pos nan]
  exact ⟨.none, _, _, rfl, .nan (by decide), rfl⟩

end Format

end ModuleHost.Ieee
