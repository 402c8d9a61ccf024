import ModuleHost.Proofs.Ieee.Text
import ModuleHost.Value.Text
import ModuleHost.Wasm.Numeric

namespace ModuleHost.Value

open Wasm (IntWidth FloatWidth)

variable {cs kind number : List Char} {v : Value}

/-- A text after the colon, and the value that it stands for; its kind is that of the value. The
integer that is denoted is that of the value exactly, so it is in the range of the kind. -/
inductive SpellsNumber : List Char → Value → Prop
  | i32 {cs : List Char} {v : Int32} (integer : Digits.Signed cs v.toInt) :
    SpellsNumber cs (.i32 v)
  | i64 {cs : List Char} {v : Int64} (integer : Digits.Signed cs v.toInt) :
    SpellsNumber cs (.i64 v)
  | f32 {cs : List Char} {bits : Nat} (float : Ieee.binary32.SpellsSigned cs bits) :
    SpellsNumber cs (.f32 (UInt32.ofNat bits))
  | f64 {cs : List Char} {bits : Nat} (float : Ieee.binary64.SpellsSigned cs bits) :
    SpellsNumber cs (.f64 (UInt64.ofNat bits))
  | decimal {cs : List Char} {v : BitVec 128} (integer : Digits.Unsigned 10 cs v.toNat) :
    SpellsNumber cs (.v128 v)
  | hexadecimal {cs : List Char} {v : BitVec 128} (integer : Digits.Unsigned 16 cs v.toNat) :
    SpellsNumber ('0' :: 'x' :: cs) (.v128 v)

def Spells (cs : List Char) (v : Value) : Prop :=
  ∃ number, cs = v.kind.name.toList ++ ':' :: number ∧ SpellsNumber number v

theorem splitAtColon_eq_some :
    splitAtColon cs = some (kind, number) ↔ cs = kind ++ ':' :: number ∧ ':' ∉ kind := by
  unfold splitAtColon
  constructor
  · intro splits
    split at splits
    · cases splits
    · rename_i c rest left
      cases splits
      have colon : c = ':' := by
        have first := List.head?_dropWhile_not (· ≠ ':') cs
        rw [left] at first
        simpa using first
      refine ⟨?_, fun member => ?_⟩
      · rw [← colon, ← left, colon, List.takeWhile_append_dropWhile]
      · simpa using List.all_eq_true.mp List.all_takeWhile _ member
  · rintro ⟨rfl, free⟩
    have before : ∀ c ∈ kind, decide (c ≠ ':') = true := fun c member =>
      decide_eq_true fun same => free (same ▸ member)
    have colon : ∀ c ∈ (':' :: number).head?, decide (c ≠ ':') = false := fun c first =>
      decide_eq_false (not_not.mpr (Option.some.inj first).symm)
    obtain ⟨taken, left⟩ := span_append before colon
    rw [taken, left]

theorem colon_notMem_name (k : Kind) : ':' ∉ k.name.toList := by
  cases k <;> decide

theorem readVector_of_unmarked (unmarked : ∀ digits, cs ≠ '0' :: 'x' :: digits) :
    readVector cs = Digits.readUnsigned 10 vectorBound cs := by
  unfold readVector
  split
  · exact absurd rfl (unmarked _)
  · rfl

theorem unmarked_of_unsigned {n : Nat} (integer : Digits.Unsigned 10 cs n) (digits : List Char) :
    cs ≠ '0' :: 'x' :: digits := by
  rintro rfl
  obtain ⟨s, body, text, -, -, ds, all, -⟩ := integer
  have member : 'x' ∈ body := by
    cases s with
    | none => exact (show '0' :: 'x' :: digits = body from text) ▸ .tail _ (.head _)
    | plus => cases text
    | minus => cases text
  obtain ⟨d, -, digit⟩ := exists_of_forall₂ all member
  cases (Digits.valueIn_eq_some (by decide)).mpr digit

theorem le_vectorBound_iff {n : Nat} : n ≤ vectorBound ↔ n < 2 ^ 128 :=
  Nat.lt_succ_iff.symm

theorem readVector_eq_ok {n : Nat} :
    readVector cs = .ok n ↔ n < 2 ^ 128 ∧
      (Digits.Unsigned 10 cs n ∨ ∃ digits, cs = '0' :: 'x' :: digits ∧
        Digits.Unsigned 16 digits n) := by
  rw [← le_vectorBound_iff]
  constructor
  · intro reads
    unfold readVector at reads
    split at reads
    · obtain ⟨integer, most⟩ := (Digits.readUnsigned_eq_ok (by decide)).mp reads
      exact ⟨most, .inr ⟨_, rfl, integer⟩⟩
    · obtain ⟨integer, most⟩ := (Digits.readUnsigned_eq_ok (by decide)).mp reads
      exact ⟨most, .inl integer⟩
  · rintro ⟨most, integer | ⟨digits, rfl, integer⟩⟩
    · rw [readVector_of_unmarked (unmarked_of_unsigned integer)]
      exact (Digits.readUnsigned_eq_ok (by decide)).mpr ⟨integer, most⟩
    · exact (Digits.readUnsigned_eq_ok (by decide)).mpr ⟨integer, most⟩

theorem readSigned_map_eq_ok {bound : Nat} {make : Int → Value}
    {fault : Digits.Fault → TextFault} :
    ((Digits.readSigned 10 bound number).map make).mapError fault = .ok v ↔
      ∃ n, Digits.Signed number n ∧ -(bound : Int) - 1 ≤ n ∧ n ≤ bound ∧ make n = v := by
  simp only [mapError_eq_ok, map_eq_ok, Digits.readSigned_eq_ok, and_assoc]

theorem readFloat_map_eq_ok {f : Ieee.Format} {make : Nat → Value}
    {fault : Ieee.ReadFault → TextFault} :
    ((f.read number).map make).mapError fault = .ok v ↔
      ∃ bits, f.SpellsSigned number bits ∧ make bits = v := by
  simp only [mapError_eq_ok, map_eq_ok, Ieee.Format.read_eq_ok]

def ofInt (w : IntWidth) (n : Int) : Value :=
  match w with
  | .w32 => i32 (Int32.ofInt n)
  | .w64 => i64 (Int64.ofInt n)

def kindOfInt : IntWidth → Kind
  | .w32 => .i32
  | .w64 => .i64

theorem exists_ofInt {w : IntWidth} (isInt : v.kind = kindOfInt w) :
    ∃ n : Int, -(w.signBit : Int) ≤ n ∧ n < w.signBit ∧ ofInt w n = v := by
  cases w with
  | w32 =>
    cases v with
    | i32 v => exact ⟨v.toInt, v.le_toInt, v.toInt_lt, congrArg i32 v.ofInt_toInt⟩
    | _ => cases isInt
  | w64 =>
    cases v with
    | i64 v => exact ⟨v.toInt, v.le_toInt, v.toInt_lt, congrArg i64 v.ofInt_toInt⟩
    | _ => cases isInt

theorem spellsNumber_ofInt {w : IntWidth} {n : Int} (least : -(w.signBit : Int) ≤ n)
    (most : n < w.signBit) : SpellsNumber cs (ofInt w n) ↔ Digits.Signed cs n := by
  cases w with
  | w32 =>
    have same : (Int32.ofInt n).toInt = n := Int32.toInt_ofInt_of_le least most
    constructor
    · intro spells
      cases (spells : SpellsNumber cs (.i32 _)) with
      | i32 integer => rwa [same] at integer
    · exact fun integer => .i32 (same.symm ▸ integer)
  | w64 =>
    have same : (Int64.ofInt n).toInt = n := Int64.toInt_ofInt_of_le least most
    constructor
    · intro spells
      cases (spells : SpellsNumber cs (.i64 _)) with
      | i64 integer => rwa [same] at integer
    · exact fun integer => .i64 (same.symm ▸ integer)

theorem readNumber_integer (w : IntWidth) :
    readNumber (kindOfInt w).name.toList number = .ok v ↔
      v.kind = kindOfInt w ∧ SpellsNumber number v := by
  have reads : readNumber (kindOfInt w).name.toList number =
      ((Digits.readSigned 10 (w.signBit - 1) number).map (ofInt w)).mapError
        (.badInteger (kindOfInt w).name.toList number) := by
    cases w <;> rfl
  have positive : 0 < w.signBit := by cases w <;> decide
  rw [reads, readSigned_map_eq_ok]
  constructor
  · rintro ⟨n, integer, least, most, rfl⟩
    refine ⟨by cases w <;> rfl, (spellsNumber_ofInt ?_ ?_).mpr integer⟩ <;> omega
  · rintro ⟨isInt, spells⟩
    obtain ⟨n, least, most, rfl⟩ := exists_ofInt isInt
    exact ⟨n, (spellsNumber_ofInt least most).mp spells, by omega, by omega, rfl⟩

def ofFloat (w : FloatWidth) (bits : Nat) : Value :=
  match w with
  | .w32 => f32 (UInt32.ofNat bits)
  | .w64 => f64 (UInt64.ofNat bits)

def kindOfFloat : FloatWidth → Kind
  | .w32 => .f32
  | .w64 => .f64

theorem spellsNumber_iff_float {w : FloatWidth} (isFloat : v.kind = kindOfFloat w) :
    SpellsNumber cs v ↔ ∃ bits, w.format.SpellsSigned cs bits ∧ ofFloat w bits = v := by
  constructor
  · intro spells
    cases spells with
    | @f32 _ bits float =>
      cases w with
      | w32 => exact ⟨bits, float, rfl⟩
      | w64 => cases isFloat
    | @f64 _ bits float =>
      cases w with
      | w32 => cases isFloat
      | w64 => exact ⟨bits, float, rfl⟩
    | _ => cases w <;> cases isFloat
  · rintro ⟨bits, float, rfl⟩
    cases w with
    | w32 => exact .f32 float
    | w64 => exact .f64 float

theorem readNumber_float (w : FloatWidth) :
    readNumber (kindOfFloat w).name.toList number = .ok v ↔
      v.kind = kindOfFloat w ∧ SpellsNumber number v := by
  have reads : readNumber (kindOfFloat w).name.toList number =
      ((w.format.read number).map (ofFloat w)).mapError
        (.badFloat (kindOfFloat w).name.toList number) := by
    cases w <;> rfl
  have made (bits : Nat) : (ofFloat w bits).kind = kindOfFloat w := by cases w <;> rfl
  rw [reads, readFloat_map_eq_ok]
  constructor
  · rintro ⟨bits, float, rfl⟩
    exact ⟨made bits, (spellsNumber_iff_float (made bits)).mpr ⟨bits, float, rfl⟩⟩
  · rintro ⟨isFloat, spells⟩
    exact (spellsNumber_iff_float isFloat).mp spells

theorem readNumber_v128 :
    readNumber Kind.v128.name.toList number = .ok v ↔ v.kind = .v128 ∧ SpellsNumber number v := by
  have reads : readNumber Kind.v128.name.toList number =
      ((readVector number).map fun n => v128 (BitVec.ofNat 128 n)).mapError
        (.badInteger Kind.v128.name.toList number) :=
    rfl
  rw [reads, mapError_eq_ok, map_eq_ok]
  constructor
  · rintro ⟨n, taken, rfl⟩
    obtain ⟨bound, integer⟩ := readVector_eq_ok.mp taken
    have exact : (BitVec.ofNat 128 n).toNat = n := Nat.mod_eq_of_lt bound
    rcases integer with decimal | ⟨digits, rfl, hexadecimal⟩
    · exact ⟨rfl, .decimal (by rwa [exact])⟩
    · exact ⟨rfl, .hexadecimal (by rwa [exact])⟩
  · rintro ⟨isKind, spells⟩
    cases spells with
    | @decimal cs v integer =>
      exact ⟨v.toNat, readVector_eq_ok.mpr ⟨v.isLt, .inl integer⟩,
        congrArg v128 (BitVec.ofNat_toNat 128 v)⟩
    | @hexadecimal cs v integer =>
      exact ⟨v.toNat, readVector_eq_ok.mpr ⟨v.isLt, .inr ⟨cs, rfl, integer⟩⟩,
        congrArg v128 (BitVec.ofNat_toNat 128 v)⟩
    | _ => cases isKind

theorem readNumber_name (k : Kind) :
    readNumber k.name.toList number = .ok v ↔ v.kind = k ∧ SpellsNumber number v := by
  cases k with
  | i32 => exact readNumber_integer .w32
  | i64 => exact readNumber_integer .w64
  | f32 => exact readNumber_float .w32
  | f64 => exact readNumber_float .w64
  | v128 => exact readNumber_v128

theorem exists_kind_of_readNumber (reads : readNumber kind number = .ok v) :
    ∃ k : Kind, kind = k.name.toList := by
  have letters {name : String} (named : String.ofList kind = name) : kind = name.toList := by
    rw [← named, String.toList_ofList]
  unfold readNumber at reads
  split at reads
  · exact ⟨.i32, letters ‹_›⟩
  · exact ⟨.i64, letters ‹_›⟩
  · exact ⟨.f32, letters ‹_›⟩
  · exact ⟨.f64, letters ‹_›⟩
  · exact ⟨.v128, letters ‹_›⟩
  · cases reads

theorem readNumber_eq_ok :
    readNumber kind number = .ok v ↔ kind = v.kind.name.toList ∧ SpellsNumber number v := by
  constructor
  · intro reads
    obtain ⟨k, rfl⟩ := exists_kind_of_readNumber reads
    obtain ⟨rfl, spells⟩ := (readNumber_name k).mp reads
    exact ⟨rfl, spells⟩
  · rintro ⟨rfl, spells⟩
    exact (readNumber_name v.kind).mpr ⟨rfl, spells⟩

theorem readChars_eq_ok : readChars cs = .ok v ↔ Spells cs v := by
  unfold readChars
  constructor
  · intro reads
    split at reads
    · cases reads
    · rename_i kind number parts
      obtain ⟨rfl, -⟩ := splitAtColon_eq_some.mp parts
      obtain ⟨rfl, spells⟩ := readNumber_eq_ok.mp reads
      exact ⟨number, rfl, spells⟩
  · rintro ⟨number, rfl, spells⟩
    rw [splitAtColon_eq_some.mpr ⟨rfl, colon_notMem_name v.kind⟩]
    exact readNumber_eq_ok.mpr ⟨rfl, spells⟩

theorem read_eq_ok {text : String} : read text = .ok v ↔ Spells text.toList v := by
  rw [read, mapError_eq_ok, readChars_eq_ok]

theorem read_spells (text : String) :
    (∀ v, read text = .ok v ↔ Spells text.toList v) ∧
      ((∃ reason, read text = .error (.invalidArgument reason)) ↔
        ∀ v, ¬ Spells text.toList v) := by
  refine ⟨fun v => read_eq_ok, ?_⟩
  simp only [← read_eq_ok, read]
  cases readChars text.toList with
  | ok v => simp
  | error fault => simp

def isNaN : Value → Bool
  | f32 b => Ieee.binary32.isNaN b.toNat
  | f64 b => Ieee.binary64.isNaN b.toNat
  | _ => false

theorem toList_write (v : Value) : v.write.toList = v.kind.name.toList ++ ':' :: v.writeNumber := by
  simp [write]

theorem spellsNumber_write (v : Value) (number : v.isNaN = false) :
    SpellsNumber v.writeNumber v := by
  cases v with
  | i32 v =>
    refine .i32 ?_
    rw [writeNumber, Digits.toList_toString]
    exact Digits.signed_decimal _
  | i64 v =>
    refine .i64 ?_
    rw [writeNumber, Digits.toList_toString]
    exact Digits.signed_decimal _
  | f32 b =>
    have fits : Ieee.binary32.Fits b.toNat := b.toNat_lt
    have spells := Ieee.Format.read_eq_ok.mp
      (Ieee.Format.read_write Ieee.Format.covered_binary32 fits (by simpa [isNaN] using number))
    have same := SpellsNumber.f32 spells
    rwa [UInt32.ofNat_toNat] at same
  | f64 b =>
    have fits : Ieee.binary64.Fits b.toNat := b.toNat_lt
    have spells := Ieee.Format.read_eq_ok.mp
      (Ieee.Format.read_write Ieee.Format.covered_binary64 fits (by simpa [isNaN] using number))
    have same := SpellsNumber.f64 spells
    rwa [UInt64.ofNat_toNat] at same
  | v128 v =>
    have sixteen : 1 < 16 ∧ 16 ≤ 16 := by decide
    exact .hexadecimal
      ⟨.none, _, rfl, rfl, Digits.magnitude_writePadded sixteen.1 sixteen.2 32 v.toNat⟩

theorem read_write_of_number (number : v.isNaN = false) : read v.write = .ok v :=
  read_eq_ok.mpr ⟨_, v.toList_write, spellsNumber_write v number⟩

theorem read_write_of_nan (nan : v.isNaN = true) :
    ∃ u, read v.write = .ok u ∧ u.isNaN = true ∧ u.kind = v.kind := by
  cases v with
  | f32 b =>
    have spells := Ieee.Format.read_eq_ok.mp (Ieee.Format.read_write_nan nan)
    exact ⟨f32 (UInt32.ofNat Ieee.binary32.quietNaN),
      read_eq_ok.mpr ⟨_, toList_write (f32 b), .f32 spells⟩, by decide, rfl⟩
  | f64 b =>
    have spells := Ieee.Format.read_eq_ok.mp (Ieee.Format.read_write_nan nan)
    exact ⟨f64 (UInt64.ofNat Ieee.binary64.quietNaN),
      read_eq_ok.mpr ⟨_, toList_write (f64 b), .f64 spells⟩, by decide, rfl⟩
  | _ => cases nan

theorem exists_read_write (v : Value) :
    ∃ u, read v.write = .ok u ∧ u.isNaN = v.isNaN ∧ u.kind = v.kind ∧
      (v.isNaN = false → u = v) := by
  cases nan : v.isNaN with
  | false => exact ⟨v, read_write_of_number nan, nan, rfl, fun _ => rfl⟩
  | true =>
    obtain ⟨u, reads, isNaN, sameKind⟩ := read_write_of_nan nan
    exact ⟨u, reads, isNaN, sameKind, nofun⟩

theorem write_of_nan (nan : v.isNaN = true) :
    v.write = v.kind.name ++ ":" ++ String.ofList "NaN".toList := by
  cases v with
  | f32 b => exact congrArg (fun number => "f32:" ++ String.ofList number) (if_pos nan)
  | f64 b => exact congrArg (fun number => "f64:" ++ String.ofList number) (if_pos nan)
  | _ => cases nan

theorem reads_back (v w : Value) :
    (∃ u, read v.write = .ok u ∧ (u = v ∨ v.isNaN = true ∧ u.isNaN = true ∧ u.kind = v.kind)) ∧
      (v.write = w.write ↔ v = w ∨ v.isNaN = true ∧ w.isNaN = true ∧ v.kind = w.kind) := by
  obtain ⟨u, reads, isNaN, sameKind, exact_v⟩ := exists_read_write v
  obtain ⟨u', reads', isNaN', sameKind', exact_w⟩ := exists_read_write w
  refine ⟨⟨u, reads, ?_⟩, fun alike => ?_, ?_⟩
  · cases nan : v.isNaN with
    | false => exact .inl (exact_v nan)
    | true => exact .inr ⟨rfl, isNaN.trans nan, sameKind⟩
  · obtain rfl : u = u' := Except.ok.inj (reads.symm.trans (alike ▸ reads'))
    cases nan : v.isNaN with
    | false => exact .inl ((exact_v nan).symm.trans (exact_w (by rw [← isNaN', isNaN, nan])))
    | true => exact .inr ⟨rfl, by rw [← isNaN', isNaN, nan], sameKind.symm.trans sameKind'⟩
  · rintro (rfl | ⟨left, right, kinds⟩)
    · rfl
    · rw [write_of_nan left, write_of_nan right, kinds]

end ModuleHost.Value
