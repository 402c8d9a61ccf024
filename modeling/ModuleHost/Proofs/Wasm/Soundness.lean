import ModuleHost.Proofs.Wasm.Control

namespace ModuleHost.Wasm

open Validation (Context checkFunc find_eq_ok localTypes)
open Validation.Operands

variable {p : Program} {c : Context} {us : List ValType} {x : Config}

/-- A call that returns leaves results of the given types on top. The store is typed either way. -/
def CallExit.Typed (globals : Array GlobalType) (types : List ValType) : CallExit → Prop
  | .done results s => (∃ below, Fits (types.reverse ++ below) results) ∧ s.Typed globals
  | .stop _ s => s.Typed globals

theorem fits_error {error : Nat} (small : error < UInt16.size) : Fits [.i32] [error] :=
  .cons ((IntWidth.holds_iff (w := .w32)).mpr (small.trans (by decide))) .nil

theorem fits_ofStored {error : Nat} (small : error < UInt16.size) {m m' : Memory}
    {context context' : Wasi.Context} {stored : Except String Memory} {results : List Slot}
    (served : Wasi.Outcome.ofStored error m context stored = .returns results m' context') :
    Fits [.i32] results := by
  cases stored with
  | ok =>
    cases served
    exact fits_error small
  | error => cases served

theorem fits_of_tell {m m' : Memory} {context context' : Wasi.Context} {clock result : Nat}
    {told : Wasi.Clock → UInt64} {results : List Slot}
    (served : Wasi.tell m context clock result told = .returns results m' context') :
    Fits [.i32] results := by
  unfold Wasi.tell at served
  dsimp only at served
  split at served
  · exact fits_ofStored (by decide) served
  · exact fits_ofStored (by decide) served
  all_goals
    cases served
    exact fits_error (by decide)

theorem fits_of_askOutside {world : Wasi.Outside} {call : Wasi.Call} {args results : List Slot}
    {m m' : Memory} {context context' : Wasi.Context}
    (served : Wasi.askOutside world call args m context = .returns results m' context') :
    Fits [.i32] results := by
  unfold Wasi.askOutside at served
  split at served
  · exact fits_ofStored (UInt16.toNat_lt _) served
  · cases served

theorem fits_of_serve {world : Wasi.Outside} {call : Wasi.Call} {args results : List Slot}
    {m m' : Memory} {context context' : Wasi.Context}
    (served : Wasi.serve world call args m context = .returns results m' context') :
    Fits [.i32] results := by
  have answered (error : Nat) (small : error < UInt16.size)
      {m₁ : Memory} {context₁ : Wasi.Context}
      (same : Wasi.Outcome.returns [error] m₁ context₁ = .returns results m' context') :
      Fits [.i32] results := by
    cases same
    exact fits_error small
  unfold Wasi.serve at served
  split at served
  · exact answered 0 (by decide) served
  · exact answered 0 (by decide) served
  · split at served
    · exact fits_ofStored (by decide) served
    · cases served
  · split at served <;> cases served
  · split at served <;> exact answered _ (by decide) served
  · split at served <;> exact answered _ (by decide) served
  · split at served
    · exact fits_ofStored (by decide) served
    · exact answered _ (by decide) served
  · split at served
    · exact fits_ofStored (by decide) served
    · exact answered _ (by decide) served
  · exact fits_ofStored (by decide) served
  · exact fits_of_tell served
  · exact fits_of_tell served
  · split at served
    · exact fits_of_askOutside served
    · exact answered _ (by decide) served
  · exact fits_of_askOutside served
  · exact answered _ (by decide) served

theorem typed_of_serve {call : Wasi.Call} {globals : Array GlobalType} {s : Store}
    (results : call.type.results = [] ∨ call.type.results = [.i32]) (args : List Slot)
    (typed : s.Typed globals) : (p.serve call args s).Typed globals call.type.results := by
  unfold Program.serve
  split
  · exact typed
  · rename_i m _
    have grows := Wasi.grows_of_serve p.outside call args (s.memory m) s.descriptors
    have stored := typed.modifyMemory (f := fun _ => (Wasi.serve ..).memory) grows
    split
    · rename_i served
      rw [served] at stored
      have fits := fits_of_serve served
      refine ⟨?_, stored.globals, stored.memories, stored.tables⟩
      rcases results with empty | one
      · rw [empty]
        exact ⟨[.i32], fits⟩
      · rw [one]
        exact ⟨[], fits⟩
    · rename_i served
      rw [served] at stored
      exact ⟨stored.globals, stored.memories, stored.tables⟩

theorem getElem?_localTypes {params : List ValType} {locals : List (Nat × ValType)} {i : Nat}
    (param : i < params.length) : (localTypes params locals)[i]? = params[i]? := by
  suffices kept : ∀ acc : Array ValType, i < acc.size →
      (locals.foldl (fun acc run => acc ++ Array.replicate run.1 run.2) acc)[i]? = acc[i]? by
    exact (kept params.toArray param).trans List.getElem?_toArray
  induction locals with
  | nil => exact fun _ _ => rfl
  | cons run locals ih =>
    intro acc inside
    have further : i < (acc ++ Array.replicate run.1 run.2).size := by
      rw [Array.size_append]
      exact Nat.lt_add_right _ inside
    exact (ih _ further).trans (Array.getElem?_append_left inside)

theorem typed_of_localTypes {params : List ValType} {locals : List (Nat × ValType)}
    {args : List Slot} (fits : Fits params.reverse args) (count i : Nat) (t : ValType)
    (found : (localTypes params locals)[i]? = some t) :
    t.Holds ((args.reverse.toArray ++ Array.replicate count 0).getD i 0) := by
  have fits : Fits params args.reverse := by
    have reversed := List.rel_reverse fits
    rwa [List.reverse_reverse] at reversed
  have same := fits.length_eq
  rw [Array.getD_eq_getD_getElem?, Array.getElem?_append, List.size_toArray, ← same]
  split
  · rename_i param
    rw [getElem?_localTypes param] at found
    obtain ⟨inside, rfl⟩ := List.getElem?_eq_some_iff.mp found
    rw [List.getElem?_toArray, List.getElem?_eq_getElem (same ▸ inside)]
    exact fits.get inside (same ▸ inside)
  · have zero : ((Array.replicate count (0 : Slot))[i - params.length]?).getD 0 = 0 := by
      rw [Array.getElem?_replicate]
      split <;> rfl
    rw [zero]
    exact t.holds_zero

theorem Program.Checked.starts {func : Func} {t : FuncType} {args : List Slot} {s : Store}
    (checked : p.Checked c) (own : func ∈ p.module.funcs)
    (known : p.module.types.getD func.type ⟨[], []⟩ = t) (fits : Fits t.params.reverse args)
    (typed : s.Typed c.globals) (spent : Nat) :
    ∃ locals labels, let c' : Context := { c with locals, labels, results := t.results }
      Continues c' [t.results] func.body [] [] ∧ Config.Typed c' []
        ⟨s, args.reverse.toArray ++ Array.replicate func.localCount 0, [], spent⟩ := by
  obtain ⟨checks, sized⟩ := checked.bodies func own
  simp only [checkFunc, bind_eq_ok, find_eq_ok] at checks
  obtain ⟨t', found, _, -, s', body, ends⟩ := checks
  rw [checked.types] at found
  rw [Array.getD_eq_getD_getElem?, found, Option.getD_some] at known
  subst known
  refine ⟨localTypes t'.params func.locals, [t'.results], .body ⟨s', body, ends⟩ sized, .nil,
    typed_of_localTypes fits _, ⟨typed.globals, typed.memories, typed.tables⟩⟩

/-- Running code that goes on with operands of the types at hand ends with results of the types of
its function. -/
def Sound (p : Program) (runs : List Instr → List Label → Config → CallExit) : Prop :=
  ∀ (c : Context) targets code labels types x, p.Checked c →
    Continues c targets code labels types → x.Typed c types →
    (runs code labels x).Typed c.globals c.results

def SoundCalls (p : Program) (callee : Nat → List Slot → Store → CallExit) : Prop :=
  ∀ (c : Context) f args s, p.Checked c → Fits (p.funcType f).params.reverse args →
    s.Typed c.globals → (callee f args s).Typed c.globals (p.funcType f).results

theorem sound_dispatch {runs : Func → List Instr → List Label → Config → CallExit}
    (sound : ∀ func, Sound p (runs func)) :
    SoundCalls p (p.dispatch fun func => p.enterWith (runs func func.body []) func) := by
  intro c f args s checked fits typed
  unfold Program.dispatch Program.funcType at *
  cases hosted : p.hostCalls[f]? with
  | some call => exact typed_of_serve (checked.host f call hosted) _ typed
  | none =>
    simp only [hosted] at fits
    dsimp only
    cases own : p.module.funcs[f - p.hostCalls.size]? with
    | none => exact typed
    | some func =>
      simp only [own] at fits
      obtain ⟨locals, labels, continues, begins⟩ :=
        checked.starts (Array.mem_of_getElem? own) rfl fits typed (s.fuelSpent + 1)
      unfold Program.enterWith
      dsimp only
      split
      · exact typed.withFuel _
      · exact sound func _ _ _ _ _ _ checked.inside continues begins

theorem typed_of_callFrom {callee : Nat → List Slot → Store → CallExit}
    (sound : SoundCalls p callee) (checked : p.Checked c) (f : Nat)
    (typed : x.Typed c ((p.funcType f).params.reverse ++ us)) :
    (p.callFrom callee f x).All (Config.Typed c ((p.funcType f).results.reverse ++ us))
      fun _ s => s.Typed c.globals := by
  obtain ⟨args, rest⟩ := Fits.reverse_takeOperands typed.stack
  have called := sound c f (p.argsOf f x) x.save checked args (typed.store.withFuel _)
  unfold Program.callFrom
  dsimp only
  split
  · rename_i stopped
    rwa [stopped] at called
  · rename_i returned
    rw [returned] at called
    obtain ⟨⟨below, fits⟩, stored⟩ := called
    have results := (Fits.reverse_takeOperands fits).1
    exact ⟨List.rel_append results rest, typed.locals, stored⟩

theorem sound_run {callee : Nat → List Slot → Store → CallExit} (calls : SoundCalls p callee)
    (steps : Nat) : Sound p (p.run callee steps) := by
  induction steps with
  | zero => exact fun _ _ _ _ _ _ _ _ typed => typed.store
  | succ steps ih =>
    intro c targets code labels types x checked continues typed
    have step := typed_of_step checked continues typed
    unfold Program.run
    split
    · rename_i next
      rw [next] at step
      obtain ⟨targets, types, continues, typed⟩ := step
      exact ih c targets _ _ types _ checked continues typed
    · rename_i f _ _ _ next
      rw [next] at step
      obtain ⟨targets, types, continues, typed⟩ := step
      have called := typed_of_callFrom calls checked f typed
      split
      · rename_i returned
        rw [returned] at called
        exact ih c targets _ _ _ _ checked continues called
      · rename_i stopped
        rwa [stopped] at called
    · rename_i f x' next
      rw [next] at step
      obtain ⟨results, types, typed⟩ := step
      -- Its results are those of this function, so it may end in its place.
      have args := (Fits.reverse_takeOperands typed.stack).1
      rw [← results]
      exact sound_dispatch (fun _ => ih) c f _ _ checked args (typed.store.withFuel _)
    · rename_i next
      rw [next] at step
      obtain ⟨types, typed⟩ := step
      exact ⟨⟨types, typed.stack⟩, typed.store.withFuel _⟩
    · rename_i next
      rwa [next] at step

theorem sound_callAt (p : Program) (depth : Nat) : SoundCalls p (p.callAt depth) := by
  induction depth with
  | zero =>
    intro c f args s checked fits typed
    unfold Program.callAt Program.dispatch Program.funcType at *
    cases hosted : p.hostCalls[f]? with
    | some call => exact typed_of_serve (checked.host f call hosted) _ typed
    | none =>
      dsimp only
      cases p.module.funcs[f - p.hostCalls.size]? <;> exact typed
  | succ depth ih => exact sound_dispatch fun func => sound_run ih _

end ModuleHost.Wasm
