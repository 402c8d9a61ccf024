import ModuleHost.Files
import ModuleHost.Proofs.List

namespace ModuleHost.Files

variable {path name ext : String}

structure EndsWith (path name : String) : Prop where
  names : name ∉ ["", ".", ".."]
  parts : ∃ directory after, split path = directory ++ name :: after ∧
    ∀ part ∈ after, part = "" ∨ part = "."

theorem fileName_eq_some : fileName path = some name ↔ EndsWith path name := by
  simp only [fileName, Option.filter_eq_some_iff, List.find?_eq_some_iff_append]
  constructor
  · rintro ⟨⟨named, before, directory, parts, passed⟩, other⟩
    refine ⟨by simp_all, directory.reverse, before.reverse, ?_, ?_⟩
    · rw [← List.reverse_reverse (split path), parts]
      simp
    · intro part member
      have here := passed part (List.mem_reverse.mp member)
      by_cases empty : part = ""
      · exact .inl empty
      · exact .inr (by simpa [empty] using here)
  · rintro ⟨named, directory, after, parts, passed⟩
    refine ⟨⟨by simp_all, after.reverse, directory.reverse, by simp [parts], ?_⟩, by simp_all⟩
    intro part member
    rcases passed part (List.mem_reverse.mp member) with rfl | rfl <;> simp

def HasExtension (path ext : String) : Prop :=
  '.' ∉ ext.toList ∧ ∃ stem, stem ≠ "" ∧ EndsWith path (stem ++ "." ++ ext)

theorem extension_eq_some : extension path = some ext ↔ HasExtension path ext := by
  simp only [extension, HasExtension, ← fileName_eq_some, bind, Option.bind_eq_some_iff]
  constructor
  · rintro ⟨name, named, here⟩
    split at here <;> cases here
    rename_i longer
    have reversed : name.toList.reverse.length = name.toList.length := List.length_reverse
    generalize after : name.toList.reverse.takeWhile (· ≠ '.') = ext at longer
    obtain ⟨free, stem, parts⟩ := takeWhile_ne_eq.mp ⟨after, by omega⟩
    have whole : name = String.ofList stem.reverse ++ "." ++ String.ofList ext.reverse := by
      rw [← String.toList_inj, ← List.reverse_inj, parts]
      simp
    refine ⟨by simpa using free, _, ?_, whole ▸ named⟩
    intro empty
    have length := congrArg List.length parts
    simp only [String.ofList_eq_empty_iff, List.reverse_eq_nil_iff] at empty
    simp only [empty, List.length_append, List.length_singleton] at length
    omega
  · rintro ⟨free, stem, more, named⟩
    refine ⟨_, named, ?_⟩
    have parts : (stem ++ "." ++ ext).toList.reverse =
        ext.toList.reverse ++ '.' :: stem.toList.reverse := by
      simp
    obtain ⟨after, -⟩ := takeWhile_ne_eq.mpr ⟨List.mem_reverse.not.mpr free, _, parts⟩
    have positive : 0 < stem.toList.length := by
      simpa [List.length_pos_iff] using more
    have length := congrArg List.length parts
    simp only [List.length_reverse, List.length_append, List.length_cons] at length
    rw [after, List.reverse_reverse, String.ofList_toList, List.length_reverse, if_neg (by omega)]

end ModuleHost.Files
