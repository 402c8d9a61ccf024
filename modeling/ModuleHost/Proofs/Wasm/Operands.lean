import Mathlib.Tactic
import ModuleHost.Proofs.Except
import ModuleHost.Wasm.Validation.Module

namespace ModuleHost.Wasm.Validation.Operands

def known (types : List ValType) : Operands :=
  ⟨types.map some, false⟩

variable {ts us types : List ValType} {t : ValType} {s : Operands}

theorem pushAll_known (types ts : List ValType) :
    (known ts).pushAll types = known (types.reverse ++ ts) := by
  induction types generalizing ts with
  | nil => rfl
  | cons t types ih =>
    rw [List.reverse_cons, List.append_assoc]
    exact ih (t :: ts)

theorem popAny_known {found : Option ValType} :
    (known ts).popAny = .ok (found, s) ↔ ∃ t us, ts = t :: us ∧ found = some t ∧ s = known us := by
  cases ts with
  | nil => simp [known, popAny]
  | cons t ts =>
    constructor
    · intro pops
      cases pops
      exact ⟨t, ts, rfl, rfl, rfl⟩
    · rintro ⟨_, _, same, rfl, rfl⟩
      cases same
      rfl

theorem pop_known : (known ts).pop t = .ok s ↔ ∃ us, ts = t :: us ∧ s = known us := by
  simp only [pop, bind_eq_ok, Prod.exists, popAny_known]
  constructor
  · rintro ⟨_, _, ⟨u, us, rfl, rfl, rfl⟩, passes⟩
    dsimp only at passes
    split at passes <;> cases passes
    exact ⟨us, by rw [‹u = t›], rfl⟩
  · rintro ⟨us, rfl, rfl⟩
    exact ⟨some t, _, ⟨t, us, rfl, rfl, rfl⟩, if_pos rfl⟩

theorem popReversed_known : (known ts).popReversed types = .ok s ↔
    ∃ us, ts = types ++ us ∧ s = known us := by
  induction types generalizing ts with
  | nil =>
    constructor
    · intro same
      cases same
      exact ⟨ts, rfl, rfl⟩
    · rintro ⟨us, rfl, rfl⟩
      rfl
  | cons t types ih =>
    simp only [popReversed, bind_eq_ok, pop_known]
    constructor
    · rintro ⟨_, ⟨us, rfl, rfl⟩, pops⟩
      obtain ⟨vs, rfl, rfl⟩ := ih.mp pops
      exact ⟨vs, rfl, rfl⟩
    · rintro ⟨us, rfl, rfl⟩
      exact ⟨_, ⟨_, rfl, rfl⟩, ih.mpr ⟨us, rfl, rfl⟩⟩

theorem popAll_known : (known ts).popAll types = .ok s ↔
    ∃ us, ts = types.reverse ++ us ∧ s = known us :=
  popReversed_known

theorem replace_known {params results : List ValType} :
    (known ts).replace params results = .ok s ↔
      ∃ us, ts = params.reverse ++ us ∧ s = known (results.reverse ++ us) := by
  simp only [replace, bind_eq_ok, popAll_known]
  constructor
  · rintro ⟨_, ⟨us, rfl, rfl⟩, same⟩
    cases same
    exact ⟨us, rfl, pushAll_known results us⟩
  · rintro ⟨us, rfl, rfl⟩
    exact ⟨_, ⟨us, rfl, rfl⟩, congrArg Except.ok (pushAll_known results us)⟩

theorem finish_known : (known ts).finish types = .ok () ↔ ts = types.reverse := by
  simp only [finish, bind_eq_ok, popAll_known]
  constructor
  · rintro ⟨_, ⟨us, rfl, rfl⟩, passes⟩
    cases us with
    | nil => exact List.append_nil _
    | cons t us => cases passes
  · rintro rfl
    exact ⟨_, ⟨[], (List.append_nil _).symm, rfl⟩, rfl⟩

end ModuleHost.Wasm.Validation.Operands
