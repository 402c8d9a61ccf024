import ModuleHost.Proofs.Instance.Traps

namespace ModuleHost

/-- A text is somewhere in the message of a failure. -/
def Failure.Tells (e : Failure) (text : String) : Prop :=
  text.toList <:+: e.message.toList

namespace Failure

variable {e : Failure} {text : String}

theorem tells_of_message {before : String} (ends : e.message = before ++ text) : e.Tells text := by
  rw [Tells, ends, String.toList_append]
  exact (List.suffix_append _ _).isInfix

theorem Tells.bytes (tells : e.Tells text) :
    text.toByteArray.data.toList <:+: e.message.toByteArray.data.toList := by
  obtain ⟨before, after, same⟩ := tells
  have whole : e.message = String.ofList before ++ text ++ String.ofList after := by
    rw [← String.toList_inj, ← same, String.toList_append, String.toList_append,
      String.toList_ofList, String.toList_ofList]
  rw [whole, String.toByteArray_append, String.toByteArray_append, ByteArray.data_append,
    ByteArray.data_append, Array.toList_append, Array.toList_append]
  exact List.infix_append _ _ _

end Failure

namespace GuestFault

open Wasm (Trap)

def IsTrap (e : GuestFault) : Prop :=
  ∃ t, e.cause = .trap t

/-- What calls and creations tell of a fault. -/
structure Told (e : GuestFault) : Prop where
  outOfFuel : e.cause = .trap .outOfFuel → e.toCallFailure = .fuelExhausted ∧
    e.toCreationFailure = .instantiation "fuel exhausted while running the start function"
  trap : ∀ t, e.cause = .trap t → t ≠ .outOfFuel →
    e.toCallFailure = .trap t.message (some t.code) ∧
      e.toCreationFailure = .instantiation ("start function trapped: " ++ t.message)
  trapCause : ∀ t, e.cause = .trap t → t ≠ .outOfFuel →
    e.toCallFailure.Tells t.message ∧ e.toCreationFailure.Tells t.message
  trapAlone : e.IsTrap → ¬ e.toCallFailure.Tells backtrace ∧ ¬ e.toCreationFailure.Tells backtrace
  call : ¬ e.IsTrap → e.toCallFailure = .trap (e.layers.headD e.cause.message) none
  creation : ¬ e.IsTrap →
    e.toCreationFailure.Tells e.cause.message ∧ ∀ layer ∈ e.layers, e.toCreationFailure.Tells layer

variable {e : GuestFault} {t : Trap} {layers : List String} {text : String}

theorem eq_of_cause {cause : Wasm.Stop} (same : e.cause = cause) : e = ⟨e.layers, cause⟩ :=
  same ▸ rfl

theorem not_tells_of_trap (t : Trap) : ¬ (Failure.trap t.message (some t.code)).Tells backtrace ∧
    ¬ (Failure.instantiation ("start function trapped: " ++ t.message)).Tells backtrace := by
  refine ⟨fun tells => absurd tells.bytes ?_, fun tells => absurd tells.bytes ?_⟩
  all_goals cases t <;> decide +kernel

theorem not_tells_of_fuel : ¬ Failure.fuelExhausted.Tells backtrace ∧
    ¬ (Failure.instantiation "fuel exhausted while running the start function").Tells
      backtrace := by
  refine ⟨fun tells => absurd tells.bytes ?_, fun tells => absurd tells.bytes ?_⟩
  all_goals decide +kernel

theorem not_tells_backtrace (layers : List String) (t : Trap) :
    ¬ (⟨layers, .trap t⟩ : GuestFault).toCallFailure.Tells backtrace ∧
      ¬ (⟨layers, .trap t⟩ : GuestFault).toCreationFailure.Tells backtrace := by
  by_cases fuel : t = .outOfFuel
  · subst fuel
    exact not_tells_of_fuel
  · rw [Instance.toCallFailure_of_trap fuel, toCreationFailure_of_trap fuel]
    exact not_tells_of_trap t

theorem tells_trap (other : t ≠ .outOfFuel) :
    (⟨layers, .trap t⟩ : GuestFault).toCallFailure.Tells t.message ∧
      (⟨layers, .trap t⟩ : GuestFault).toCreationFailure.Tells t.message := by
  rw [Instance.toCallFailure_of_trap other, toCreationFailure_of_trap other]
  exact ⟨Failure.tells_of_message rfl, Failure.tells_of_message (String.append_assoc ..).symm⟩

theorem infix_intercalate {separator xs : List Char} {all : List (List Char)}
    (member : xs ∈ all) : xs <:+: separator.intercalate all := by
  induction all with
  | nil => cases member
  | cons first others ih =>
    cases others with
    | nil =>
      rw [List.mem_singleton.mp member, List.intercalate_singleton]
    | cons next others =>
      rw [List.intercalate_cons_cons]
      rcases List.mem_cons.mp member with rfl | later
      · rw [List.append_assoc]
        exact (List.prefix_append _ _).isInfix
      · exact (ih later).trans (List.suffix_append _ _).isInfix

theorem tells_chain (member : text ∈ e.layers ++ [e.cause.message]) :
    (Failure.instantiation e.chain).Tells text := by
  have inside : text.toList <:+: e.chain.toList := by
    rw [chain, String.toList_intercalate]
    exact infix_intercalate (List.mem_map_of_mem member)
  have whole : (Failure.instantiation e.chain).Tells e.chain := Failure.tells_of_message rfl
  exact inside.trans whole

theorem toFailure_of_other (other : ¬ e.IsTrap) :
    e.toCallFailure = .trap e.outermost none ∧ e.toCreationFailure = .instantiation e.chain := by
  obtain ⟨layers, cause⟩ := e
  cases cause with
  | trap t => exact absurd ⟨t, rfl⟩ other
  | host | stuck => exact ⟨rfl, rfl⟩

theorem told (e : GuestFault) : e.Told where
  outOfFuel cause := by
    rw [eq_of_cause cause]
    exact ⟨rfl, rfl⟩
  trap t cause other := by
    rw [eq_of_cause cause]
    exact ⟨Instance.toCallFailure_of_trap other, toCreationFailure_of_trap other⟩
  trapCause t cause other := by
    rw [eq_of_cause cause]
    exact tells_trap other
  trapAlone := by
    rintro ⟨t, cause⟩
    rw [eq_of_cause cause]
    exact not_tells_backtrace e.layers t
  call other := (toFailure_of_other other).1
  creation other := by
    rw [(toFailure_of_other other).2]
    refine ⟨tells_chain ?_, fun layer member => tells_chain ?_⟩
    · exact List.mem_append_right _ (List.mem_singleton_self _)
    · exact List.mem_append_left _ member

theorem tells_backtrace_inGuest (reason : Wasm.Stop) :
    ((inGuest reason).toCallFailure.Tells backtrace ↔ ∀ t, reason ≠ .trap t) ∧
      ((inGuest reason).toCreationFailure.Tells backtrace ↔ ∀ t, reason ≠ .trap t) := by
  by_cases trap : (inGuest reason).IsTrap
  · have alone := (told (inGuest reason)).trapAlone trap
    obtain ⟨t, same⟩ := trap
    have caused : ¬ ∀ t, reason ≠ .trap t := fun other => other t same
    exact ⟨iff_of_false alone.1 caused, iff_of_false alone.2 caused⟩
  · have other : ∀ t, reason ≠ .trap t := not_exists.mp trap
    refine ⟨iff_of_true ?_ other, iff_of_true ?_ other⟩
    · rw [(told (inGuest reason)).call trap]
      exact Failure.tells_of_message rfl
    · exact ((told (inGuest reason)).creation trap).2 backtrace (List.mem_singleton_self _)

end GuestFault

end ModuleHost
