import ModuleHost.Proofs.Wasm.Range
import ModuleHost.Wasm.Vector

namespace ModuleHost.Wasm

theorem build_lt (bits count : Nat) (f : Nat → Nat) : build bits count f < 2 ^ (bits * count) := by
  induction count with
  | zero => exact Nat.one_pos
  | succ count ih =>
    have digit : f count % 2 ^ bits + 1 ≤ 2 ^ bits := Nat.mod_lt _ (Nat.two_pow_pos bits)
    calc build bits (count + 1) f
        = build bits count f + 2 ^ (bits * count) * (f count % 2 ^ bits) := rfl
      _ < 2 ^ (bits * count) + 2 ^ (bits * count) * (f count % 2 ^ bits) :=
        Nat.add_lt_add_right ih _
      _ = 2 ^ (bits * count) * (f count % 2 ^ bits + 1) := by ring
      _ ≤ 2 ^ (bits * count) * 2 ^ bits := Nat.mul_le_mul_left _ digit
      _ = 2 ^ (bits * (count + 1)) := by rw [← pow_add, Nat.mul_succ]

theorem digit_build {bits count i : Nat} (f : Nat → Nat) (inside : i < count) :
    build bits count f / 2 ^ (bits * i) % 2 ^ bits = f i % 2 ^ bits := by
  induction count with
  | zero => cases inside
  | succ count ih =>
    show (build bits count f + 2 ^ (bits * count) * (f count % 2 ^ bits)) / 2 ^ (bits * i) %
      2 ^ bits = _
    rcases Nat.lt_or_eq_of_le (Nat.lt_succ_iff.mp inside) with below | rfl
    · -- The digits from the next one on are a multiple of what is left by the division.
      have split : bits * count = bits * i + (bits + bits * (count - i - 1)) := by
        obtain ⟨k, rfl⟩ := Nat.exists_eq_add_of_lt below
        rw [show i + k + 1 - i - 1 = k by omega]
        ring
      rw [split, pow_add, pow_add, Nat.mul_assoc, Nat.add_mul_div_left _ _ (Nat.two_pow_pos _),
        Nat.mul_assoc, Nat.add_mul_mod_self_left]
      exact ih below
    · rw [Nat.add_mul_div_left _ _ (Nat.two_pow_pos _),
        Nat.div_eq_of_lt (build_lt bits i f), Nat.zero_add, Nat.mod_mod]

namespace LaneWidth

variable {w : LaneWidth}

theorem holds_vector (f : Nat → Nat) : ValType.v128.Holds (w.vector f) := by
  have whole : w.bits * w.count = 128 := by cases w <;> rfl
  have fits := build_lt w.bits w.count f
  rwa [whole] at fits

theorem lane_lt (v : Slot) (i : Nat) : w.lane v i < 2 ^ w.bits :=
  Nat.mod_lt _ (Nat.two_pow_pos _)

theorem lane_vector {i : Nat} (f : Nat → Nat) (inside : i < w.count) :
    w.lane (w.vector f) i = f i % 2 ^ w.bits :=
  digit_build f inside

theorem lane_replace {v : Slot} {lane a i : Nat} (inside : i < w.count) :
    w.lane (w.replace v lane a) i = if i = lane then a % 2 ^ w.bits else w.lane v i := by
  rw [replace, lane_vector _ inside]
  split
  · rfl
  · exact Nat.mod_eq_of_lt (lane_lt v i)

end LaneWidth

theorem VectorUnary.holds_apply (op : VectorUnary) (a : Slot) :
    ValType.v128.Holds (op.apply a) := by
  cases op <;> exact LaneWidth.holds_vector _

theorem VectorBinary.holds_apply (op : VectorBinary) (a b : Slot) :
    ValType.v128.Holds (op.apply a b) := by
  cases op <;> exact LaneWidth.holds_vector _

theorem VectorTernary.holds_apply (op : VectorTernary) (a b d : Slot) :
    ValType.v128.Holds (op.apply a b d) := by
  cases op with
  | bitSelect | mulAdd => exact LaneWidth.holds_vector _
  | dotAdd => exact VectorBinary.holds_apply (.int .w32 .add) _ d

theorem VectorTest.holds_apply (op : VectorTest) (a : Slot) : ValType.i32.Holds (op.apply a) := by
  cases op with
  | anyTrue | allTrue => exact holds_ofBool _
  | bitmask w =>
    have fits := build_lt 1 w.count fun i => w.lane a i / Nat.pow 2 (w.bits - 1)
    refine Nat.lt_of_lt_of_le fits (Nat.pow_le_pow_right (by decide) ?_)
    cases w <;> decide

theorem LaneShape.holds_extract {shape : LaneShape} {signed : Bool} {a : Nat}
    (fits : a < 2 ^ shape.width.bits) : shape.type.Holds (shape.extract signed a) := by
  cases shape with
  | int w =>
    have plain : (LaneShape.int w).type.Holds a := by
      cases w <;> exact Nat.lt_of_lt_of_le fits (by decide)
    have narrow : (LaneShape.int w).type.Holds (signExtend .w32 w.bits a) := by
      cases w with
      | w8 | w16 | w32 => exact signExtend_lt (by decide) a
      | w64 =>
        have low : a % 2 ^ 64 < 2 ^ 64 := Nat.mod_lt a (by decide)
        show (if a % 2 ^ 64 < 2 ^ 63 then a % 2 ^ 64
          else a % 2 ^ 64 + 2 ^ 32 - 2 ^ 64) < 2 ^ 64
        split <;> omega
    simp only [extract]
    split
    · exact narrow
    · exact plain
  | float w => cases w <;> exact fits

theorem VectorOp.holds_apply (op : VectorOp) (args : List Slot) :
    op.type.2.Holds (op.apply args) := by
  cases op with
  | unary op => exact op.holds_apply _
  | binary op => exact op.holds_apply _ _
  | ternary op => exact op.holds_apply _ _ _
  | test op => exact op.holds_apply _
  | shift | splat | replace => exact LaneWidth.holds_vector _
  | extract shape signed lane => exact LaneShape.holds_extract (LaneWidth.lane_lt _ _)

theorem VectorLoad.holds_apply (how : VectorLoad) (n : Nat) : ValType.v128.Holds (how.apply n) := by
  cases how with
  | extend w signed => exact VectorUnary.holds_apply (.extend w false signed) n
  | splat | zero => exact LaneWidth.holds_vector _

end ModuleHost.Wasm
