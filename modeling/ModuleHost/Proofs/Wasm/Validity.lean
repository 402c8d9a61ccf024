import Mathlib.Tactic
import ModuleHost.Proofs.Except
import ModuleHost.Wasm.Validation.Module

namespace ModuleHost.Wasm.Validation

variable {m : Module} {c : Context} {funcs : Array FuncType}

theorem find_eq_ok {α : Type} {items : Array α} {space : IndexSpace} {i : Nat} {x : α} :
    find items space i = .ok x ↔ items[i]? = some x := by
  unfold find
  cases items[i]? <;> simp

/-- What validation has found of a module, where the context tells the types of its indices. -/
structure Valid (m : Module) (c : Context) : Prop where
  types : c.types = m.types
  funcs : resolveFuncs m = .ok c.funcs
  tables : c.tables = m.tableTypes
  globals : c.globals = m.globalTypes
  imports : ∀ i ∈ m.imports, checkImport m i = .ok ()
  sizes : ∀ t ∈ m.tables, checkTable t = .ok ()
  memories : ∀ l ∈ m.memories, checkMemory l = .ok ()
  values : ∀ g ∈ m.globals, checkConst c m.importedGlobals g.type.value g.init = .ok ()
  exports : ∀ e ∈ m.exports, checkExport c e = .ok ()
  names : checkNames m.exports = .ok ()
  start : checkStart c m.start = .ok ()
  bodies : ∀ f ∈ m.funcs, checkFunc c f = .ok ()

theorem valid_of_check (valid : check m = .ok ()) : ∃ c, Valid m c := by
  simp only [check, bind_eq_ok] at valid
  obtain ⟨_, -, _, imports, funcs, resolved, _, sizes, _, memories, valid⟩ := valid
  split at valid
  · obtain ⟨_, stops, -⟩ := bind_eq_ok.mp valid
    cases stops
  · split at valid
    · obtain ⟨_, stops, -⟩ := bind_eq_ok.mp valid
      cases stops
    · simp only [bind_eq_ok] at valid
      obtain ⟨_, values, _, exports, _, names, _, start, _, -, _, -, bodies⟩ := valid
      refine ⟨_, rfl, resolved, rfl, rfl, forM_eq_ok.mp imports, forM_array_eq_ok.mp sizes,
        forM_array_eq_ok.mp memories, fun g member => ?_, forM_eq_ok.mp exports, names, start,
        forM_array_eq_ok.mp bodies⟩
      obtain ⟨_, -, checks⟩ := bind_eq_ok.mp (forM_array_eq_ok.mp values g member)
      exact checks

theorem nodup_of_checkNames {es : List Export} (checks : checkNames es = .ok ()) :
    (es.map Export.name).Nodup := by
  induction es with
  | nil => exact List.nodup_nil
  | cons e es ih =>
    simp only [checkNames] at checks
    split at checks
    · cases checks
    · rename_i fresh
      refine List.nodup_cons.mpr ⟨fun member => ?_, ih checks⟩
      obtain ⟨x, other, same⟩ := List.mem_map.mp member
      exact fresh (List.any_eq_true.mpr ⟨x, other, decide_eq_true same⟩)

theorem nodup_of_check (valid : check m = .ok ()) : (m.exports.map Export.name).Nodup := by
  obtain ⟨c, valid⟩ := valid_of_check valid
  exact nodup_of_checkNames valid.names

theorem funcType_of_resolveFuncs {f : Nat} {t : FuncType} (resolved : resolveFuncs m = .ok funcs)
    (found : funcs[f]? = some t) : m.funcType f = some t := by
  rw [resolveFuncs, Array.mapM_eq_mapM_toList] at resolved
  obtain ⟨types, mapped, rfl⟩ := map_eq_ok.mp resolved
  rw [List.getElem?_toArray] at found
  obtain ⟨k, declared, finds⟩ := getElem?_of_mapM mapped found
  rw [Array.getElem?_toList] at declared
  simp only [Module.funcType, declared, Option.bind_eq_bind, Option.bind_some]
  exact find_eq_ok.mp finds

theorem funcType_of_check {e : Export} {f : Nat} (valid : check m = .ok ())
    (exported : e ∈ m.exports) (target : e.target = .func f) : ∃ t, m.funcType f = some t := by
  obtain ⟨c, valid⟩ := valid_of_check valid
  have checks := valid.exports e exported
  simp only [checkExport, target, map_eq_ok, find_eq_ok] at checks
  obtain ⟨t, found, -⟩ := checks
  exact ⟨t, funcType_of_resolveFuncs valid.funcs found⟩

end ModuleHost.Wasm.Validation
