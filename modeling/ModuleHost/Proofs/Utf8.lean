import Mathlib.Tactic
import ModuleHost.Text.Utf8

namespace ModuleHost.Utf8

theorem lead_eq (b : UInt8) :
    lead b =
      if b.toNat < 0x80 then some ⟨0, 0x80, 0xbf, b.toNat⟩
      else if b.toNat < 0xc2 then none
      else if b.toNat < 0xe0 then some ⟨1, 0x80, 0xbf, b.toNat - 0xc0⟩
      else if b.toNat = 0xe0 then some ⟨2, 0xa0, 0xbf, 0⟩
      else if b.toNat = 0xed then some ⟨2, 0x80, 0x9f, 0xd⟩
      else if b.toNat < 0xf0 then some ⟨2, 0x80, 0xbf, b.toNat - 0xe0⟩
      else if b.toNat = 0xf0 then some ⟨3, 0x90, 0xbf, 0⟩
      else if b.toNat < 0xf4 then some ⟨3, 0x80, 0xbf, b.toNat - 0xf0⟩
      else if b.toNat = 0xf4 then some ⟨3, 0x80, 0x8f, 4⟩
      else none := by
  simp only [lead, UInt8.lt_iff_toNat_lt, ← UInt8.toNat_inj, UInt8.reduceToNat]

theorem lead_one {b : UInt8} (below : b.toNat < 0x80) :
    lead b = some ⟨0, 0x80, 0xbf, b.toNat⟩ := by
  rw [lead_eq, if_pos below]

theorem lead_two {b : UInt8} (least : 0xc2 ≤ b.toNat) (below : b.toNat < 0xe0) :
    lead b = some ⟨1, 0x80, 0xbf, b.toNat - 0xc0⟩ := by
  rw [lead_eq, if_neg (by omega), if_neg (by omega), if_pos below]

theorem lead_three {b : UInt8} (least : 0xe0 ≤ b.toNat) (below : b.toNat < 0xf0) :
    ∃ low high, lead b = some ⟨2, low, high, b.toNat - 0xe0⟩ ∧
      (b.toNat = 0xe0 ∧ low.toNat = 0xa0 ∨ b.toNat ≠ 0xe0 ∧ low.toNat = 0x80) ∧
      (b.toNat = 0xed ∧ high.toNat = 0x9f ∨ b.toNat ≠ 0xed ∧ high.toNat = 0xbf) := by
  rw [lead_eq, if_neg (by omega), if_neg (by omega), if_neg (by omega)]
  by_cases first : b.toNat = 0xe0
  · rw [if_pos first, first]
    exact ⟨0xa0, 0xbf, rfl, .inl ⟨rfl, rfl⟩, .inr ⟨by decide, rfl⟩⟩
  rw [if_neg first]
  by_cases last : b.toNat = 0xed
  · rw [if_pos last, last]
    exact ⟨0x80, 0x9f, rfl, .inr ⟨by decide, rfl⟩, .inl ⟨rfl, rfl⟩⟩
  rw [if_neg last, if_pos below]
  exact ⟨0x80, 0xbf, rfl, .inr ⟨first, rfl⟩, .inr ⟨last, rfl⟩⟩

theorem lead_four {b : UInt8} (least : 0xf0 ≤ b.toNat) (below : b.toNat < 0xf5) :
    ∃ low high, lead b = some ⟨3, low, high, b.toNat - 0xf0⟩ ∧
      (b.toNat = 0xf0 ∧ low.toNat = 0x90 ∨ b.toNat ≠ 0xf0 ∧ low.toNat = 0x80) ∧
      (b.toNat = 0xf4 ∧ high.toNat = 0x8f ∨ b.toNat ≠ 0xf4 ∧ high.toNat = 0xbf) := by
  rw [lead_eq, if_neg (by omega), if_neg (by omega), if_neg (by omega), if_neg (by omega),
    if_neg (by omega), if_neg (by omega)]
  by_cases first : b.toNat = 0xf0
  · rw [if_pos first, first]
    exact ⟨0x90, 0xbf, rfl, .inl ⟨rfl, rfl⟩, .inr ⟨by decide, rfl⟩⟩
  rw [if_neg first]
  by_cases last : b.toNat = 0xf4
  · rw [if_neg (by omega), if_pos last, last]
    exact ⟨0x80, 0x8f, rfl, .inr ⟨by decide, rfl⟩, .inl ⟨rfl, rfl⟩⟩
  rw [if_pos (by omega)]
  exact ⟨0x80, 0xbf, rfl, .inr ⟨first, rfl⟩, .inr ⟨last, rfl⟩⟩

theorem lead_none {b : UInt8} (outside : 0x80 ≤ b.toNat ∧ b.toNat < 0xc2 ∨ 0xf5 ≤ b.toNat) :
    lead b = none := by
  rw [lead_eq, if_neg (by omega)]
  rcases outside with ⟨-, below⟩ | beyond
  · rw [if_pos below]
  · rw [if_neg (by omega), if_neg (by omega), if_neg (by omega), if_neg (by omega),
      if_neg (by omega), if_neg (by omega), if_neg (by omega), if_neg (by omega)]

section Steps

variable {index start n bits : Nat} {low high b : UInt8} {read : List Char} {bs : List UInt8}

theorem decodeFrom_one (below : b.toNat < 0x80) :
    decodeFrom index none read (b :: bs) =
      decodeFrom (index + 1) none (Char.ofNat b.toNat :: read) bs := by
  simp [decodeFrom, lead_one below]

theorem decodeFrom_begin (leads : lead b = some ⟨n + 1, low, high, bits⟩) :
    decodeFrom index none read (b :: bs) =
      decodeFrom (index + 1) (some ⟨index, n + 1, low, high, bits⟩) read bs := by
  simp [decodeFrom, leads]

theorem decodeFrom_more (least : low.toNat ≤ b.toNat) (greatest : b.toNat ≤ high.toNat) :
    decodeFrom index (some ⟨start, n + 2, low, high, bits⟩) read (b :: bs) =
      decodeFrom (index + 1) (some ⟨start, n + 1, 0x80, 0xbf, bits * 64 + (b.toNat - 0x80)⟩) read
        bs := by
  rw [decodeFrom, if_pos ⟨UInt8.le_iff_toNat_le.mpr least, UInt8.le_iff_toNat_le.mpr greatest⟩]
  simp

theorem decodeFrom_last (least : low.toNat ≤ b.toNat) (greatest : b.toNat ≤ high.toNat) :
    decodeFrom index (some ⟨start, 1, low, high, bits⟩) read (b :: bs) =
      decodeFrom (index + 1) none (Char.ofNat (bits * 64 + (b.toNat - 0x80)) :: read) bs := by
  rw [decodeFrom, if_pos ⟨UInt8.le_iff_toNat_le.mpr least, UInt8.le_iff_toNat_le.mpr greatest⟩]
  simp

end Steps

theorem toNat_ofNat_byte {n : Nat} (small : n < 256) : (UInt8.ofNat n).toNat = n := by
  rw [UInt8.toNat_ofNat']
  exact Nat.mod_eq_of_lt small

theorem decodeFrom_utf8EncodeChar (index : Nat) (read : List Char) (c : Char) (bs : List UInt8) :
    ∃ index', decodeFrom index none read (String.utf8EncodeChar c ++ bs) =
      decodeFrom index' none (c :: read) bs := by
  have valid : c.val.toNat < 0xd800 ∨ 0xdfff < c.val.toNat ∧ c.val.toNat < 0x110000 := c.valid
  have same : Char.ofNat c.val.toNat = c := Char.ofNat_toNat c
  unfold String.utf8EncodeChar
  generalize c.val.toNat = v at valid same
  -- The four lengths of an encoding; each of its bytes is told by its number.
  by_cases one : v ≤ 0x7f
  · have byte := toNat_ofNat_byte (n := v) (by omega)
    exact ⟨index + 1, by
      rw [if_pos one, List.singleton_append, decodeFrom_one (by omega), byte, same]⟩
  have last := toNat_ofNat_byte (n := v % 64 + 0x80) (by omega)
  have third := toNat_ofNat_byte (n := v / 64 % 64 + 0x80) (by omega)
  have second := toNat_ofNat_byte (n := v / 4096 % 64 + 0x80) (by omega)
  have first₂ := toNat_ofNat_byte (n := v / 64 % 32 + 0xc0) (by omega)
  have first₃ := toNat_ofNat_byte (n := v / 4096 % 16 + 0xe0) (by omega)
  have first₄ := toNat_ofNat_byte (n := v / 262144 % 8 + 0xf0) (by omega)
  simp only [if_neg one]
  generalize UInt8.ofNat (v % 64 + 0x80) = b₄ at last ⊢
  generalize UInt8.ofNat (v / 64 % 64 + 0x80) = b₃ at third ⊢
  generalize UInt8.ofNat (v / 4096 % 64 + 0x80) = b₂ at second ⊢
  generalize UInt8.ofNat (v / 64 % 32 + 0xc0) = a₂ at first₂ ⊢
  generalize UInt8.ofNat (v / 4096 % 16 + 0xe0) = a₃ at first₃ ⊢
  generalize UInt8.ofNat (v / 262144 % 8 + 0xf0) = a₄ at first₄ ⊢
  have low : (0x80 : UInt8).toNat = 0x80 := rfl
  have high : (0xbf : UInt8).toNat = 0xbf := rfl
  by_cases two : v ≤ 0x7ff
  · have value : (a₂.toNat - 0xc0) * 64 + (b₄.toNat - 0x80) = v := by omega
    exact ⟨index + 2, by
      rw [if_pos two, List.cons_append, List.singleton_append,
        decodeFrom_begin (lead_two (by omega) (by omega)), decodeFrom_last (by omega) (by omega),
        value, same]⟩
  by_cases three : v ≤ 0xffff
  · have value : ((a₃.toNat - 0xe0) * 64 + (b₃.toNat - 0x80)) * 64 + (b₄.toNat - 0x80) = v := by
      omega
    obtain ⟨l, h, leads, least, greatest⟩ := lead_three (b := a₃) (by omega) (by omega)
    exact ⟨index + 3, by
      rw [if_neg two, if_pos three, List.cons_append, List.cons_append, List.singleton_append,
        decodeFrom_begin leads, decodeFrom_more (by omega) (by omega),
        decodeFrom_last (by omega) (by omega), value, same]⟩
  · have value : (((a₄.toNat - 0xf0) * 64 + (b₂.toNat - 0x80)) * 64 + (b₃.toNat - 0x80)) * 64 +
        (b₄.toNat - 0x80) = v := by omega
    obtain ⟨l, h, leads, least, greatest⟩ := lead_four (b := a₄) (by omega) (by omega)
    exact ⟨index + 4, by
      rw [if_neg two, if_neg three, List.cons_append, List.cons_append, List.cons_append,
        List.singleton_append, decodeFrom_begin leads, decodeFrom_more (by omega) (by omega),
        decodeFrom_more (by omega) (by omega), decodeFrom_last (by omega) (by omega), value,
        same]⟩

theorem decodeFrom_encode (index : Nat) (read cs : List Char) :
    decodeFrom index none read (cs.flatMap String.utf8EncodeChar) = .ok (read.reverse ++ cs) := by
  induction cs generalizing index read with
  | nil => simp [decodeFrom]
  | cons c cs ih =>
    obtain ⟨index', eq⟩ :=
      decodeFrom_utf8EncodeChar index read c (cs.flatMap String.utf8EncodeChar)
    rw [List.flatMap_cons, eq, ih, List.reverse_cons, List.append_assoc]
    rfl

def extend (bits : Nat) (bytes : List UInt8) : Nat :=
  bytes.foldl (fun bits b => bits * 64 + (b.toNat - 0x80)) bits

theorem extend_cons (bits : Nat) (b : UInt8) (bs : List UInt8) :
    extend bits (b :: bs) = extend (bits * 64 + (b.toNat - 0x80)) bs := by
  rw [extend, List.foldl_cons, extend]

/-- However the pending sequence is completed, with the bytes before it makes up a character. -/
def Begun (before : List UInt8) (p : Pending) : Prop :=
  ∀ b rest, p.low.toNat ≤ b.toNat → b.toNat ≤ p.high.toNat → rest.length + 1 = p.missing →
    (∀ x ∈ rest, 0x80 ≤ x.toNat ∧ x.toNat ≤ 0xbf) →
    String.utf8EncodeChar (Char.ofNat (extend p.bits (b :: rest))) = before ++ b :: rest

theorem toNat_ofNat {n : Nat} (valid : n < 0xd800 ∨ 0xdfff < n ∧ n < 0x110000) :
    (Char.ofNat n).val.toNat = n := by
  have valid : n.isValidChar := valid
  rw [Char.ofNat, dif_pos valid]
  rfl

theorem begun_two {b : UInt8} {start : Nat} (least : 0xc2 ≤ b.toNat) (below : b.toNat < 0xe0) :
    Begun [b] ⟨start, 1, 0x80, 0xbf, b.toNat - 0xc0⟩ := by
  intro b₁ rest low high length _
  obtain rfl : rest = [] := List.length_eq_zero_iff.mp (by simpa using length)
  simp only [UInt8.reduceToNat] at low high
  have valid := toNat_ofNat (n := (b.toNat - 0xc0) * 64 + (b₁.toNat - 0x80)) (by omega)
  simp only [extend, List.foldl_cons, List.foldl_nil, String.utf8EncodeChar, valid]
  rw [if_neg (by omega), if_pos (by omega)]
  simp only [List.cons_append, List.nil_append, List.cons.injEq, and_true, ← UInt8.toNat_inj,
    UInt8.toNat_ofNat']
  omega

theorem begun_three {b low high : UInt8} {start : Nat} (least : 0xe0 ≤ b.toNat)
    (below : b.toNat < 0xf0)
    (lows : b.toNat = 0xe0 ∧ low.toNat = 0xa0 ∨ b.toNat ≠ 0xe0 ∧ low.toNat = 0x80)
    (highs : b.toNat = 0xed ∧ high.toNat = 0x9f ∨ b.toNat ≠ 0xed ∧ high.toNat = 0xbf) :
    Begun [b] ⟨start, 2, low, high, b.toNat - 0xe0⟩ := by
  intro b₁ rest least₁ greatest₁ length range
  change low.toNat ≤ b₁.toNat at least₁
  change b₁.toNat ≤ high.toNat at greatest₁
  obtain ⟨b₂, rfl⟩ := List.length_eq_one_iff.mp (Nat.succ.inj length)
  have last := range b₂ (by simp)
  have valid := toNat_ofNat
    (n := ((b.toNat - 0xe0) * 64 + (b₁.toNat - 0x80)) * 64 + (b₂.toNat - 0x80)) (by omega)
  simp only [extend, List.foldl_cons, List.foldl_nil, String.utf8EncodeChar, valid]
  rw [if_neg (by omega), if_neg (by omega), if_pos (by omega)]
  simp only [List.cons_append, List.nil_append, List.cons.injEq, and_true, ← UInt8.toNat_inj,
    UInt8.toNat_ofNat']
  omega

theorem begun_four {b low high : UInt8} {start : Nat} (least : 0xf0 ≤ b.toNat)
    (below : b.toNat < 0xf5)
    (lows : b.toNat = 0xf0 ∧ low.toNat = 0x90 ∨ b.toNat ≠ 0xf0 ∧ low.toNat = 0x80)
    (highs : b.toNat = 0xf4 ∧ high.toNat = 0x8f ∨ b.toNat ≠ 0xf4 ∧ high.toNat = 0xbf) :
    Begun [b] ⟨start, 3, low, high, b.toNat - 0xf0⟩ := by
  intro b₁ rest least₁ greatest₁ length range
  change low.toNat ≤ b₁.toNat at least₁
  change b₁.toNat ≤ high.toNat at greatest₁
  obtain ⟨b₂, b₃, rfl⟩ := List.length_eq_two.mp (Nat.succ.inj length)
  have third := range b₂ (by simp)
  have last := range b₃ (by simp)
  have valid := toNat_ofNat
    (n := (((b.toNat - 0xf0) * 64 + (b₁.toNat - 0x80)) * 64 + (b₂.toNat - 0x80)) * 64 +
      (b₃.toNat - 0x80)) (by omega)
  simp only [extend, List.foldl_cons, List.foldl_nil, String.utf8EncodeChar, valid]
  rw [if_neg (by omega), if_neg (by omega), if_neg (by omega)]
  simp only [List.cons_append, List.nil_append, List.cons.injEq, and_true, ← UInt8.toNat_inj,
    UInt8.toNat_ofNat']
  omega

theorem lead_cases {b : UInt8} {l : Lead} (leads : lead b = some l) :
    (l.following = 0 ∧ String.utf8EncodeChar (Char.ofNat l.bits) = [b]) ∨
      (l.following ≠ 0 ∧ ∀ start, Begun [b] ⟨start, l.following, l.low, l.high, l.bits⟩) := by
  by_cases one : b.toNat < 0x80
  · obtain rfl := Option.some.inj ((lead_one one).symm.trans leads)
    have valid := toNat_ofNat (n := b.toNat) (by omega)
    refine .inl ⟨rfl, ?_⟩
    simp only [String.utf8EncodeChar, valid]
    rw [if_pos (by omega), UInt8.ofNat_toNat]
  by_cases two : 0xc2 ≤ b.toNat ∧ b.toNat < 0xe0
  · obtain rfl := Option.some.inj ((lead_two two.1 two.2).symm.trans leads)
    exact .inr ⟨by simp, fun _ => begun_two two.1 two.2⟩
  by_cases three : 0xe0 ≤ b.toNat ∧ b.toNat < 0xf0
  · obtain ⟨low, high, leads', lows, highs⟩ := lead_three three.1 three.2
    obtain rfl := Option.some.inj (leads'.symm.trans leads)
    exact .inr ⟨by simp, fun _ => begun_three three.1 three.2 lows highs⟩
  by_cases four : 0xf0 ≤ b.toNat ∧ b.toNat < 0xf5
  · obtain ⟨low, high, leads', lows, highs⟩ := lead_four four.1 four.2
    obtain rfl := Option.some.inj (leads'.symm.trans leads)
    exact .inr ⟨by simp, fun _ => begun_four four.1 four.2 lows highs⟩
  · rw [lead_none (by omega)] at leads
    cases leads

theorem Begun.last {before : List UInt8} {p : Pending} {b : UInt8} (begun : Begun before p)
    (last : p.missing = 1) (least : p.low.toNat ≤ b.toNat) (greatest : b.toNat ≤ p.high.toNat) :
    String.utf8EncodeChar (Char.ofNat (p.bits * 64 + (b.toNat - 0x80))) = before ++ [b] :=
  begun b [] least greatest last.symm nofun

theorem Begun.more {before : List UInt8} {p : Pending} {b : UInt8} (begun : Begun before p)
    (least : p.low.toNat ≤ b.toNat) (greatest : b.toNat ≤ p.high.toNat) :
    Begun (before ++ [b])
      ⟨p.start, p.missing - 1, 0x80, 0xbf, p.bits * 64 + (b.toNat - 0x80)⟩ := by
  intro b' rest low high length range
  rw [List.append_assoc, List.singleton_append, ← extend_cons]
  refine begun b (b' :: rest) least greatest ?_ ?_
  · simp only [List.length_cons] at length ⊢
    omega
  · exact List.forall_mem_cons.mpr ⟨⟨low, high⟩, range⟩

theorem encode_of_decodeFrom (bs : List UInt8) :
    ∀ (index : Nat) (read cs : List Char),
      (decodeFrom index none read bs = .ok cs →
        cs.flatMap String.utf8EncodeChar = read.reverse.flatMap String.utf8EncodeChar ++ bs) ∧
      (∀ p before, Begun before p → decodeFrom index (some p) read bs = .ok cs →
        cs.flatMap String.utf8EncodeChar =
          read.reverse.flatMap String.utf8EncodeChar ++ (before ++ bs)) := by
  -- Both states of the decoder at once: between two sequences and inside one.
  induction bs with
  | nil =>
    intro index read cs
    refine ⟨fun decodes => ?_, fun p before _ decodes => ?_⟩
    · simp only [decodeFrom, Except.ok.injEq] at decodes
      simp [decodes]
    · cases decodes
  | cons b bs ih =>
    intro index read cs
    refine ⟨fun decodes => ?_, fun p before begun decodes => ?_⟩
    · rw [decodeFrom] at decodes
      cases leads : lead b with
      | none => simp [leads] at decodes
      | some l =>
        simp only [leads] at decodes
        rcases lead_cases leads with ⟨alone, char⟩ | ⟨longer, begun⟩
        · rw [if_pos alone] at decodes
          rw [(ih _ _ _).1 decodes]
          simp [char]
        · rw [if_neg longer] at decodes
          exact (ih _ _ _).2 _ [b] (begun index) decodes
    · rw [decodeFrom] at decodes
      by_cases inside : p.low ≤ b ∧ b ≤ p.high
      · have least := UInt8.le_iff_toNat_le.mp inside.1
        have greatest := UInt8.le_iff_toNat_le.mp inside.2
        simp only [if_pos inside] at decodes
        by_cases last : p.missing = 1
        · rw [if_pos last] at decodes
          rw [(ih _ _ _).1 decodes]
          simp [begun.last last least greatest]
        · rw [if_neg last] at decodes
          rw [(ih _ _ _).2 _ _ (begun.more least greatest) decodes, List.append_assoc,
            List.singleton_append]
      · simp [if_neg inside] at decodes

theorem zero_notMem_utf8EncodeChar {c : Char} (other : c ≠ '\x00') :
    (0 : UInt8) ∉ String.utf8EncodeChar c := by
  have positive : c.val.toNat ≠ 0 := fun zero => other (Char.ext (UInt32.toNat_inj.mp zero))
  unfold String.utf8EncodeChar
  generalize c.val.toNat = v at positive
  dsimp only
  split_ifs
  all_goals
    simp only [List.mem_cons, List.not_mem_nil, or_false, ← UInt8.toNat_inj, UInt8.toNat_ofNat',
      UInt8.toNat_zero]
    omega

theorem zero_notMem_encode {text : String} (free : '\x00' ∉ text.toList) : 0 ∉ encode text := by
  intro member
  obtain ⟨c, written, member⟩ := List.mem_flatMap.mp member
  exact zero_notMem_utf8EncodeChar (fun zero => free (zero ▸ written)) member

theorem decode_eq_ok_iff (bytes : List UInt8) (text : String) :
    decode bytes = .ok text ↔ encode text = bytes := by
  constructor
  · intro decodes
    cases chars : decodeFrom 0 none [] bytes with
    | error fault => simp [decode, decodeChars, chars, Except.map] at decodes
    | ok cs =>
      simp only [decode, decodeChars, chars, Except.map, Except.ok.injEq] at decodes
      rw [← decodes, encode, String.toList_ofList, ((encode_of_decodeFrom bytes) 0 [] cs).1 chars]
      rfl
  · rintro rfl
    rw [decode, decodeChars, encode, decodeFrom_encode]
    simp [Except.map]

end ModuleHost.Utf8
