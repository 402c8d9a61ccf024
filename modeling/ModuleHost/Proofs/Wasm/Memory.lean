import Mathlib.Tactic
import ModuleHost.Wasm.Memory

namespace ModuleHost.Wasm

variable {b : ByteArray} {a x : Nat} {bytes : List UInt8}

theorem size_pushZeros (count : Nat) (b : ByteArray) :
    (pushZeros count b).size = b.size + count := by
  induction count generalizing b with
  | zero => rfl
  | succ count ih =>
    rw [pushZeros, ih, ByteArray.size_push]
    omega

theorem getD_pushZeros (count : Nat) (b : ByteArray) (x : Nat) :
    (pushZeros count b).data.getD x 0 = b.data.getD x 0 := by
  induction count generalizing b with
  | zero => rfl
  | succ count ih =>
    have last : (b.push 0).data = b.data.push 0 := rfl
    rw [pushZeros, ih, last, Array.getD_eq_getD_getElem?, Array.getD_eq_getD_getElem?,
      Array.getElem?_push]
    split
    · rename_i here
      rw [here, Array.getElem?_size]
      rfl
    · rfl

namespace Memory

theorem data_overwrite (inside : a + bytes.length ≤ b.size) :
    (overwrite a bytes b).data[x]? =
      if a ≤ x ∧ x < a + bytes.length then bytes[x - a]? else b.data[x]? := by
  induction bytes generalizing a b with
  | nil => rw [overwrite, if_neg (by simp)]
  | cons y ys ih =>
    rw [List.length_cons] at inside
    have same : (b.set! a y).size = b.size := Array.size_setIfInBounds
    have put : (b.set! a y).data = b.data.set! a y := rfl
    have bound : a < b.size := by omega
    rw [overwrite, ih (by omega), put, Array.set!_eq_setIfInBounds, Array.getElem?_setIfInBounds,
      List.length_cons]
    by_cases here : a = x
    · subst here
      simp [ByteArray.size_data, bound]
    · by_cases later : a + 1 ≤ x ∧ x < a + 1 + ys.length
      · have covered : a ≤ x ∧ x < a + (ys.length + 1) := by omega
        have next : x - a = x - (a + 1) + 1 := by omega
        rw [if_pos later, if_pos covered, next, List.getElem?_cons_succ]
      · have free : ¬ (a ≤ x ∧ x < a + (ys.length + 1)) := by omega
        rw [if_neg later, if_neg here, if_neg free]

theorem get_write (m : Memory) (a : Nat) (bytes : List UInt8) (x : Nat) :
    (m.write a bytes).get x =
      if a ≤ x ∧ x < a + bytes.length then bytes.getD (x - a) 0 else m.get x := by
  unfold write
  split
  · rename_i empty
    rw [List.isEmpty_iff.mp empty, if_neg]
    simp
  · show (overwrite a bytes (pushZeros _ m.touched)).data.getD x 0 = _
    have room : a + bytes.length ≤
        (pushZeros (a + bytes.length - m.touched.size) m.touched).size := by
      rw [size_pushZeros]
      omega
    rw [Array.getD_eq_getD_getElem?, data_overwrite room]
    split
    · rw [List.getD_eq_getElem?_getD]
    · rw [← Array.getD_eq_getD_getElem?, getD_pushZeros]
      rfl

/-- A memory has become another one by a write. -/
structure Written (m : Memory) (a : Nat) (bytes : List UInt8) (m' : Memory) : Prop where
  pages : m'.pages = m.pages
  maxPages : m'.maxPages = m.maxPages
  bytes : ∀ x, m'.get x =
    if a ≤ x ∧ x < a + bytes.length then bytes.getD (x - a) 0 else m.get x

theorem written_write (m : Memory) (a : Nat) (bytes : List UInt8) :
    m.Written a bytes (m.write a bytes) := by
  refine ⟨?_, ?_, get_write m a bytes⟩
  all_goals
    unfold write
    split <;> rfl

theorem length_read (m : Memory) (a count : Nat) : (m.read a count).length = count := by
  induction count generalizing a with
  | zero => rfl
  | succ count ih => rw [read, List.length_cons, ih]

theorem getElem?_read {count k : Nat} (m : Memory) (a : Nat) (inside : k < count) :
    (m.read a count)[k]? = some (m.get (a + k)) := by
  induction count generalizing a k with
  | zero => cases inside
  | succ count ih =>
    cases k with
    | zero => rfl
    | succ k =>
      rw [read, List.getElem?_cons_succ, ih _ (Nat.lt_of_succ_lt_succ inside)]
      congr 2
      omega

namespace Written

variable {m m' : Memory} (written : m.Written a bytes m')

include written

theorem size : m'.size = m.size := by
  rw [Memory.size, written.pages, Memory.size]

theorem getElem?_read {a' count k : Nat} (inside : k < count) :
    (m'.read a' count)[k]? =
      if a ≤ a' + k ∧ a' + k < a + bytes.length then bytes[a' + k - a]?
      else (m.read a' count)[k]? := by
  rw [Memory.getElem?_read _ _ inside, Memory.getElem?_read _ _ inside, written.bytes]
  split
  · rename_i covered
    have bound : a' + k - a < bytes.length := by omega
    rw [List.getD_eq_getElem?_getD, List.getElem?_eq_getElem bound, Option.getD_some]
  · rfl

end Written

end Memory

end ModuleHost.Wasm
