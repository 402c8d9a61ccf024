import ModuleHost.Proofs.Boundary.ErrorChannel
import ModuleHost.Proofs.Utf8

namespace ModuleHost.Boundary

def escapeZeros (bytes : List UInt8) : List UInt8 :=
  bytes.flatMap fun b => if b = 0 then [0x5c, 0x30] else [b]

variable {bytes bytes' : List UInt8} {cs : List Char}

theorem escapeZeros_append :
    escapeZeros (bytes ++ bytes') = escapeZeros bytes ++ escapeZeros bytes' :=
  List.flatMap_append

theorem escapeZeros_of_notMem (free : 0 ∉ bytes) : escapeZeros bytes = bytes := by
  induction bytes with
  | nil => rfl
  | cons b bytes ih =>
    have other : b ≠ 0 := fun zero => free (zero ▸ List.mem_cons_self)
    rw [escapeZeros, List.flatMap_cons, if_neg other]
    exact congrArg (b :: ·) (ih fun later => free (List.mem_cons_of_mem b later))

theorem zero_notMem_escapeZeros (bytes : List UInt8) : 0 ∉ escapeZeros bytes := by
  intro member
  obtain ⟨b, -, written⟩ := List.mem_flatMap.mp member
  split at written
  · simp at written
  · rename_i other
    exact other (List.mem_singleton.mp written).symm

theorem length_escapeZeros (bytes : List UInt8) :
    (escapeZeros bytes).length = bytes.length + bytes.count 0 := by
  induction bytes with
  | nil => rfl
  | cons b bytes ih =>
    have rest : (escapeZeros (b :: bytes)).length =
        (if b = 0 then [0x5c, 0x30] else [b] : List UInt8).length + (escapeZeros bytes).length :=
      List.length_append
    rw [rest, ih, List.count_cons, List.length_cons]
    by_cases zero : b = 0
    · simp only [zero, if_true, List.length_cons, List.length_nil, beq_self_eq_true]
      omega
    · simp only [zero, if_false, List.length_singleton, beq_iff_eq]
      omega

theorem utf8EncodeChar_nul : String.utf8EncodeChar '\x00' = [0] :=
  rfl

theorem encode_escapeNul (cs : List Char) :
    (escapeNul cs).flatMap String.utf8EncodeChar =
      escapeZeros (cs.flatMap String.utf8EncodeChar) := by
  induction cs with
  | nil => rfl
  | cons c cs ih =>
    rw [List.flatMap_cons, escapeZeros_append, ← ih, escapeNul]
    by_cases nul : c = '\x00'
    · rw [if_pos nul, nul]
      rfl
    · have free := Utf8.zero_notMem_utf8EncodeChar nul
      rw [if_neg nul, List.flatMap_cons, escapeZeros_of_notMem free]

theorem count_zero_flatMap_utf8EncodeChar (cs : List Char) :
    (cs.flatMap String.utf8EncodeChar).count 0 = cs.count '\x00' := by
  induction cs with
  | nil => rfl
  | cons c cs ih =>
    rw [List.flatMap_cons, List.count_append, ih, List.count_cons]
    by_cases nul : c = '\x00'
    · rw [nul, utf8EncodeChar_nul]
      simp only [List.count_singleton_self, beq_self_eq_true, if_true]
      exact Nat.add_comm ..
    · rw [List.count_eq_zero.mpr (Utf8.zero_notMem_utf8EncodeChar nul)]
      simp [nul]

def Terminated (bytes : List UInt8) : Prop :=
  ∃ text, bytes = text ++ [0] ∧ 0 ∉ text

def terminate (bytes : List UInt8) : Option (List UInt8) :=
  if 0 ∈ bytes then none else some (bytes ++ [0])

theorem terminated_take_iff (terminated : Terminated bytes) (capacity : Nat) :
    Terminated (bytes.take capacity) ↔ bytes.length ≤ capacity := by
  obtain ⟨text, rfl, free⟩ := terminated
  constructor
  · rintro ⟨text', same, -⟩
    by_contra short
    have before : capacity ≤ text.length := by
      rw [List.length_append, List.length_singleton] at short
      omega
    rw [List.take_append_of_le_length before] at same
    have zero : 0 ∈ text.take capacity := by
      rw [same]
      exact List.mem_append_right _ (List.mem_singleton_self 0)
    exact free (List.mem_of_mem_take zero)
  · intro fits
    rw [List.take_of_length_le fits]
    exact ⟨text, rfl, free⟩

namespace ErrorSlot

def escaped (e : Failure) : List UInt8 :=
  Utf8.encode (String.ofList (escapeNul e.message.toList))

def render (e : Failure) : List UInt8 :=
  (terminate (escaped e)).getD [0]

def written (e : Failure) : List UInt8 :=
  escapeZeros (Utf8.encode e.message) ++ [0]

variable {e : Failure}

theorem escaped_eq (e : Failure) : escaped e = escapeZeros (Utf8.encode e.message) := by
  rw [escaped, Utf8.encode, String.toList_ofList, encode_escapeNul, Utf8.encode]

theorem ofFailure_eq (e : Failure) : ofFailure e = some (written e) :=
  congrArg (fun bytes => some (bytes ++ [0])) (escaped_eq e)

theorem terminate_escaped (e : Failure) : terminate (escaped e) = some (written e) := by
  rw [terminate, escaped_eq, if_neg (zero_notMem_escapeZeros _), written]

theorem render_eq (e : Failure) : render e = written e := by
  rw [render, terminate_escaped, Option.getD_some]

theorem terminated_written (e : Failure) : Terminated (written e) :=
  ⟨_, rfl, zero_notMem_escapeZeros _⟩

theorem length_written (e : Failure) :
    (written e).length =
      1 + (Utf8.encode e.message).length + e.message.toList.count '\x00' := by
  rw [written, List.length_append, length_escapeZeros, Utf8.encode,
    count_zero_flatMap_utf8EncodeChar, List.length_singleton]
  omega

end ErrorSlot

section

variable {p : Embedding} {t : Thread} {e : Failure}

theorem errors_fail : (p.fail t e).errors t = some (ErrorSlot.written e) := by
  rw [Embedding.fail, Embedding.errors_setError, if_pos rfl, ErrorSlot.ofFailure_eq]

theorem pendingLength_fail : (p.fail t e).pendingLength t = (ErrorSlot.written e).length := by
  rw [Embedding.pendingLength, errors_fail, ErrorSlot.length, Option.getD_some]

end

open ErrorSlot in
/-- What a failure leaves pending for its thread: one string that a NUL ends, of which a buffer
takes as much as fits. -/
structure LeavesString (p : Embedding) (t : Thread) (e : Failure) : Prop where
  pending : (p.fail t e).errors t = some (written e)
  accepted : terminate (escaped e) = some (written e)
  rendered : render e = written e
  terminated : Terminated (written e)
  length : (p.fail t e).pendingLength t =
    1 + (Utf8.encode e.message).length + e.message.toList.count '\x00'
  taken : ∀ old : List UInt8, (p.fail t e).takeError t (some old) =
    (min old.length ((p.fail t e).pendingLength t),
      some ((written e).take old.length ++ old.drop ((p.fail t e).pendingLength t)),
      (p.fail t e).setError t none)
  whole : ∀ capacity,
    Terminated ((written e).take capacity) ↔ (p.fail t e).pendingLength t ≤ capacity

theorem message_terminated (p : Embedding) (t : Thread) (e : Failure) : LeavesString p t e := by
  refine
    { pending := errors_fail
      accepted := ErrorSlot.terminate_escaped e
      rendered := ErrorSlot.render_eq e
      terminated := ErrorSlot.terminated_written e
      length := pendingLength_fail.trans (ErrorSlot.length_written e)
      taken := fun old => ?_
      whole := fun capacity => ?_ }
  · have first : (ErrorSlot.written e).take (min old.length (ErrorSlot.written e).length) =
        (ErrorSlot.written e).take old.length := List.take_eq_take_min.symm
    have rest : old.drop (min old.length (ErrorSlot.written e).length) =
        old.drop (ErrorSlot.written e).length := by
      rcases Nat.le_total old.length (ErrorSlot.written e).length with short | enough
      · rw [Nat.min_eq_left short, List.drop_length, List.drop_of_length_le short]
      · rw [Nat.min_eq_right enough]
    rw [Embedding.takeError_some, errors_fail, Option.getD_some, pendingLength_fail, first, rest]
  · rw [pendingLength_fail]
    exact terminated_take_iff (ErrorSlot.terminated_written e) capacity

end ModuleHost.Boundary
