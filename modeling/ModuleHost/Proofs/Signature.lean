import Mathlib.Tactic
import ModuleHost.Proofs.List
import ModuleHost.Signature

namespace ModuleHost

namespace Value.Kind

variable {kinds kinds' : List Value.Kind}

theorem name_injective : Function.Injective name := by
  intro k k' same
  cases k <;> cases k' <;> simp_all [name]

theorem name_plain (k : Value.Kind) :
    k.name.toList ≠ [] ∧ ',' ∉ k.name.toList ∧ ')' ∉ k.name.toList := by
  cases k <;> decide

theorem toList_joinNames (kinds : List Value.Kind) :
    (joinNames kinds).toList = [',', ' '].intercalate (kinds.map fun k => k.name.toList) := by
  rw [joinNames, String.toList_intercalate, List.map_map]
  rfl

theorem joinNames_inj : joinNames kinds = joinNames kinds' ↔ kinds = kinds' := by
  refine ⟨fun same => ?_, fun same => same ▸ rfl⟩
  have parts (kinds : List Value.Kind) :
      ∀ cs ∈ kinds.map (fun k => k.name.toList), cs ≠ [] ∧ ',' ∉ cs := by
    intro cs member
    obtain ⟨k, -, rfl⟩ := List.mem_map.mp member
    exact ⟨(name_plain k).1, (name_plain k).2.1⟩
  rw [← String.toList_inj, toList_joinNames, toList_joinNames] at same
  have names : kinds.map (fun k => k.name.toList) = kinds'.map fun k => k.name.toList :=
    eq_of_intercalate (by decide) (parts _) (parts _) same
  have distinct : Function.Injective fun k : Value.Kind => k.name.toList := by
    intro k k' same
    exact name_injective (String.toList_inj.mp same)
  exact List.map_injective_iff.mpr distinct names

theorem rightParen_notMem_joinNames (kinds : List Value.Kind) :
    ')' ∉ (joinNames kinds).toList := by
  rw [toList_joinNames]
  induction kinds with
  | nil => exact List.not_mem_nil
  | cons k kinds ih =>
    cases kinds with
    | nil =>
      rw [List.map_singleton, List.intercalate_singleton]
      exact (name_plain k).2.2
    | cons k' kinds =>
      rw [List.map_cons, List.map_cons, List.intercalate_cons_cons]
      intro member
      rcases List.mem_append.mp member with before | after
      · rcases List.mem_append.mp before with inside | between
        · exact (name_plain k).2.2 inside
        · exact absurd between (by decide)
      · exact ih after

end Value.Kind

namespace Signature

open Value.Kind (joinNames joinNames_inj rightParen_notMem_joinNames)

variable {s t : Signature} {name : String} {args : List Value} {e : Failure}

theorem toList_write (s : Signature) :
    s.write.toList =
      '(' :: ((joinNames s.params).toList ++
        ')' :: (" -> (".toList ++ (joinNames s.results).toList ++ [')'])) := by
  simp [write, String.toList_append]

theorem write_inj : s.write = t.write ↔ s = t := by
  refine ⟨fun same => ?_, fun same => same ▸ rfl⟩
  rw [← String.toList_inj, toList_write, toList_write] at same
  have inner := List.tail_eq_of_cons_eq same
  -- The first closing parenthesis ends the parameters, since no name has one.
  have ends (s : Signature) (rest : List Char) :
      ((joinNames s.params).toList ++ ')' :: rest).takeWhile (· ≠ ')') =
          (joinNames s.params).toList ∧
        ((joinNames s.params).toList ++ ')' :: rest).dropWhile (· ≠ ')') = ')' :: rest := by
    apply span_append
    · intro c member
      apply decide_eq_true
      rintro rfl
      exact rightParen_notMem_joinNames s.params member
    · rintro c ⟨⟩
      decide
  have params : s.params = t.params := by
    have before := congrArg (List.takeWhile (· ≠ ')')) inner
    rw [(ends s _).1, (ends t _).1] at before
    exact joinNames_inj.mp (String.toList_inj.mp before)
  have results : s.results = t.results := by
    have after := congrArg (List.dropWhile (· ≠ ')')) inner
    rw [(ends s _).2, (ends t _).2] at after
    have texts := List.append_cancel_right (List.tail_eq_of_cons_eq after)
    exact joinNames_inj.mp (String.toList_inj.mp (List.append_cancel_left texts))
  cases s
  cases t
  cases params
  cases results
  rfl

theorem accepts_iff : s.accepts args = true ↔ args.map Value.kind = s.params := by
  rw [← List.forall₂_eq_eq_eq, List.forall₂_map_left_iff, List.forall₂_iff_zip]
  simp only [accepts, Bool.and_eq_true, decide_eq_true_eq, List.all_eq_true, Prod.forall]

theorem requireArgs_eq_ok : s.requireArgs name args = .ok () ↔ args.map Value.kind = s.params := by
  rw [← accepts_iff, requireArgs]
  cases s.accepts args <;> simp

theorem requireArgs_eq_error :
    s.requireArgs name args = .error e ↔ args.map Value.kind ≠ s.params ∧
      e = .signatureMismatch name (joinNames s.params) (joinNames (args.map Value.kind)) := by
  rw [Ne, ← accepts_iff, requireArgs]
  cases s.accepts args <;> simp [eq_comm]

structure Faithful (s : Signature) : Prop where
  text : ∀ t : Signature, s.write = t.write ↔ s = t
  accepts : ∀ name args, s.requireArgs name args = .ok () ↔ args.map Value.kind = s.params
  refuses : ∀ name args, args.map Value.kind ≠ s.params →
    ∃ expected actual, s.requireArgs name args = .error (.signatureMismatch name expected actual) ∧
      expected ≠ actual ∧
      (∀ kinds, joinNames kinds = expected ↔ kinds = s.params) ∧
      ∀ kinds, joinNames kinds = actual ↔ kinds = args.map Value.kind

theorem texts_faithful (s : Signature) : s.Faithful where
  text _ := write_inj
  accepts _ _ := requireArgs_eq_ok
  refuses name args differ := by
    refine ⟨_, _, requireArgs_eq_error.mpr ⟨differ, rfl⟩, ?_, ?_, ?_⟩
    · intro same
      exact differ (joinNames_inj.mp same).symm
    · intro kinds
      exact joinNames_inj
    · intro kinds
      exact joinNames_inj

end Signature

end ModuleHost
