import Mathlib.Tactic
import ModuleHost.Linking
import ModuleHost.Proofs.Except
import ModuleHost.Wasm.Execution

namespace ModuleHost.Linking

open Wasm (Import FuncType Module Program)

variable {wasi : Bool} {types : Array FuncType} {m : Module} {calls : List Wasi.Call}

theorem checkType_eq_ok {i : Import} {call : Wasi.Call} :
    checkType types i call = .ok () ↔
      ∃ k, i.type = .func k ∧ types.getD k ⟨[], []⟩ = call.type := by
  unfold checkType
  cases i.type <;> simp

theorem map_fst_of_findAll {is : List Import} {found : List (Import × Wasi.Call)}
    (finds : findAll wasi is = .ok found) : found.map Prod.fst = is := by
  induction is generalizing found with
  | nil =>
    cases finds
    rfl
  | cons i is ih =>
    simp only [findAll] at finds
    split at finds
    · cases finds
    · obtain ⟨rest, others, rfl⟩ := map_eq_ok.mp finds
      exact congrArg (i :: ·) (ih others)

theorem importedFuncs_of_resolve (links : resolve wasi m = .ok calls) :
    m.importedFuncs.map (m.types.getD · ⟨[], []⟩) = calls.map Wasi.Call.type := by
  simp only [resolve, bind_eq_ok] at links
  obtain ⟨found, finds, _, checks, same⟩ := links
  cases same
  have typed := forM_eq_ok.mp checks
  rw [Module.importedFuncs, ← map_fst_of_findAll finds]
  clear finds checks
  induction found with
  | nil => rfl
  | cons p found ih =>
    obtain ⟨here, there⟩ := List.forall_mem_cons.mp typed
    obtain ⟨k, function, same⟩ := checkType_eq_ok.mp here
    simp only [List.map_cons, List.filterMap_cons, function, same, ih there]

theorem imports_of_resolve (links : resolve wasi m = .ok calls) :
    ∀ i ∈ m.imports, ∃ k, i.type = .func k := by
  simp only [resolve, bind_eq_ok] at links
  obtain ⟨found, finds, _, checks, -⟩ := links
  rw [← map_fst_of_findAll finds]
  intro i member
  obtain ⟨pair, found, rfl⟩ := List.mem_map.mp member
  obtain ⟨k, function, -⟩ := checkType_eq_ok.mp (forM_eq_ok.mp checks pair found)
  exact ⟨k, function⟩

theorem importedTables_of_resolve (links : resolve wasi m = .ok calls) :
    m.importedTables = [] := by
  refine List.filterMap_eq_nil_iff.mpr fun i imported => ?_
  obtain ⟨k, function⟩ := imports_of_resolve links i imported
  rw [function]

theorem importedGlobals_of_resolve (links : resolve wasi m = .ok calls) :
    m.importedGlobals = [] := by
  refine List.filterMap_eq_nil_iff.mpr fun i imported => ?_
  obtain ⟨k, function⟩ := imports_of_resolve links i imported
  rw [function]

theorem mem_calls_of_findAll {is : List Import} {found : List (Import × Wasi.Call)}
    (finds : findAll wasi is = .ok found) : ∀ call ∈ found.map Prod.snd, call ∈ Wasi.calls := by
  induction is generalizing found with
  | nil =>
    cases finds
    exact List.forall_mem_nil _
  | cons i is ih =>
    simp only [findAll] at finds
    split at finds
    · cases finds
    · rename_i known
      obtain ⟨rest, others, rfl⟩ := map_eq_ok.mp finds
      refine List.forall_mem_cons.mpr ⟨?_, ih others⟩
      unfold find at known
      split at known
      · exact List.mem_of_find?_eq_some known
      · cases known

theorem mem_calls_of_resolve (links : resolve wasi m = .ok calls) :
    ∀ call ∈ calls, call ∈ Wasi.calls := by
  simp only [resolve, bind_eq_ok] at links
  obtain ⟨found, finds, _, -, same⟩ := links
  cases same
  exact mem_calls_of_findAll finds

theorem results_of_mem_calls {call : Wasi.Call} (known : call ∈ Wasi.calls) :
    call.type.results = [] ∨ call.type.results = [.i32] := by
  revert call
  decide

theorem funcType_of_resolve {p : Program} {f : Nat} {t : FuncType}
    (links : resolve wasi m = .ok calls) (linked : p.hostCalls = calls.toArray)
    (same : p.module = m) (typed : m.funcType f = some t) : p.funcType f = t := by
  subst same
  have imported := importedFuncs_of_resolve links
  have count : p.hostCalls.size = p.module.importedFuncs.length := by
    have lengths := congrArg List.length imported
    simpa [linked, eq_comm] using lengths
  obtain ⟨k, declared, found⟩ := Option.bind_eq_some_iff.mp typed
  rw [Module.funcTypes, Array.getElem?_append] at declared
  unfold Program.funcType
  split
  · rename_i call host
    have inside : f < p.module.importedFuncs.length := by
      rw [← count]
      exact (Array.getElem?_eq_some_iff.mp host).1
    rw [List.size_toArray, if_pos inside, List.getElem?_toArray] at declared
    have type := congrArg (·[f]?) imported
    rw [linked, List.getElem?_toArray] at host
    simpa [List.getElem?_map, declared, host, found] using type.symm
  · rename_i guest
    have outside : ¬ f < p.module.importedFuncs.length := by
      rw [← count]
      exact Nat.not_lt_of_le (Array.getElem?_eq_none_iff.mp guest)
    rw [List.size_toArray, if_neg outside, Array.getElem?_map] at declared
    obtain ⟨func, defined, rfl⟩ := Option.map_eq_some_iff.mp declared
    rw [count, defined]
    simp [found]

theorem find_closed (i : Wasm.Import) : find false i = none := by
  simp [find]

theorem message_unknown (i : Wasm.Import) :
    (Fault.unknown i).message =
      "unknown import: `" ++ (i.moduleName ++ "::" ++ i.name) ++ "` has not been defined" := by
  have text (a b : String) :
      "unknown import: " ++ ("`" ++ a ++ "::" ++ b ++ "`") ++ " has not been defined" =
        "unknown import: `" ++ (a ++ "::" ++ b) ++ "` has not been defined" := by
    apply String.toList_injective
    simp
  exact text i.moduleName i.name

theorem resolve_closed {m : Wasm.Module} {name : String} {more : List String}
    (imports : m.importNames = name :: more) :
    ∃ fault, resolve false m = .error fault ∧
      fault.message = "unknown import: `" ++ name ++ "` has not been defined" := by
  obtain ⟨i, is, declared, rfl, -⟩ := List.map_eq_cons_iff.mp imports
  refine ⟨.unknown i, ?_, message_unknown i⟩
  rw [resolve, declared, findAll, find_closed]
  rfl

theorem resolve_eq_ok_closed {m : Wasm.Module} {calls : List Wasi.Call}
    (links : resolve false m = .ok calls) : m.importNames = [] ∧ calls = [] := by
  cases imports : m.importNames with
  | cons name more =>
    obtain ⟨fault, fails, -⟩ := resolve_closed imports
    cases fails.symm.trans links
  | nil =>
    rw [resolve, List.map_eq_nil_iff.mp imports] at links
    cases links
    exact ⟨rfl, rfl⟩

end ModuleHost.Linking
