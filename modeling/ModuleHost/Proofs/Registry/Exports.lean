import ModuleHost.Proofs.GuestModule
import ModuleHost.Proofs.Instance.Budget
import ModuleHost.Proofs.Linking
import ModuleHost.Proofs.Registry.Instances

namespace ModuleHost

namespace Instance

open GuestModule (Listing kind_eq_func)
open Wasm (FuncType ValType)

variable {i : Instance} {m : GuestModule} {q : String}

theorem lookup_of_absent {es : List Wasm.Export} (absent : ∀ e ∈ es, e.name ≠ q) :
    (es.map fun e => (e.name, e.target)).lookup q = none := by
  induction es with
  | nil => rfl
  | cons e es ih =>
    obtain ⟨other, others⟩ := List.forall_mem_cons.mp absent
    rw [List.map_cons, Data.Keyed.lookup_entry, if_neg (Ne.symm other), ih others]

theorem lookup_of_mem {es : List Wasm.Export} {e : Wasm.Export}
    (distinct : (es.map Wasm.Export.name).Nodup) (exported : e ∈ es) :
    (es.map fun e => (e.name, e.target)).lookup e.name = some e.target := by
  induction es with
  | nil => cases exported
  | cons first es ih =>
    obtain ⟨fresh, distinct⟩ := List.nodup_cons.mp distinct
    rw [List.map_cons, Data.Keyed.lookup_entry]
    rcases List.mem_cons.mp exported with rfl | later
    · rw [if_pos rfl]
    · have other : e.name ≠ first.name := fun same => fresh (same ▸ List.mem_map_of_mem later)
      rw [if_neg other, ih distinct later]

structure HasExports (i : Instance) (m : GuestModule) : Prop where
  valid : Wasm.Validation.check m.module = .ok ()
  exports : i.exports = m.module.exports.map fun e => (e.name, e.target)
  typed : ∀ f t, m.module.funcType f = some t → i.program.funcType f = t

theorem hasExports_of_create {engine : Engine} {limits : Settings.Limits} {pool pool' : Pool}
    {fuel : Option UInt64} (valid : Wasm.Validation.check m.module = .ok ())
    (created : create engine limits pool m fuel = .ok (i, pool')) : i.HasExports m := by
  obtain ⟨calls, links, program, exports, -⟩ := creationLaws.links created
  refine ⟨valid, exports, fun f t => ?_⟩
  rw [program]
  exact Linking.funcType_of_resolve links rfl rfl

theorem HasExports.step (has : i.HasExports m) (op : Op) : (i.step op).2.HasExports m := by
  obtain ⟨store, after, -⟩ := i.step_spends op
  rw [after]
  exact ⟨has.valid, has.exports, has.typed⟩

namespace HasExports

variable (has : i.HasExports m)

include has

theorem lookup {e : Wasm.Export} (exported : e ∈ m.module.exports) :
    i.exports.lookup e.name = some e.target := by
  rw [has.exports]
  exact lookup_of_mem (Wasm.Validation.nodup_of_check has.valid) exported

theorem resolve_of_absent (absent : ∀ l ∈ m.exports, l.name ≠ q) :
    i.resolve q = .error (.exportNotFound q) := by
  have missing : i.exports.lookup q = none := by
    rw [has.exports]
    refine lookup_of_absent fun e exported => ?_
    exact absent (GuestModule.listing m.module e) (List.mem_map_of_mem exported)
  simp [resolve, missing]

theorem resolve_of_other {kind : String} {s : Option Signature}
    (listed : ⟨q, kind, s⟩ ∈ m.exports) (other : kind ≠ "func") :
    i.resolve q = .error (.notAFunction q kind) := by
  obtain ⟨e, exported, same⟩ := List.mem_map.mp listed
  cases same
  have found := has.lookup exported
  unfold resolve
  rw [found]
  cases target : e.target with
  | func f => exact absurd (kind_eq_func.mpr ⟨f, target⟩) other
  | table | memory | global => rfl

theorem funcType_of_listed {s : Option Signature} (listed : ⟨q, "func", s⟩ ∈ m.exports) :
    ∃ e f t, e ∈ m.module.exports ∧ e.name = q ∧ e.target = .func f ∧
      m.module.funcType f = some t ∧ i.exports.lookup q = some (.func f) ∧
      i.program.funcType f = t ∧ s = (Signature.ofFuncType t).toOption := by
  obtain ⟨e, exported, same⟩ := List.mem_map.mp listed
  obtain ⟨name, kind, signature⟩ := Listing.mk.inj same
  obtain ⟨f, target⟩ := kind_eq_func.mp kind
  obtain ⟨t, typed⟩ := Wasm.Validation.funcType_of_check has.valid exported target
  have found := has.lookup exported
  rw [target, name] at found
  refine ⟨e, f, t, exported, name, target, typed, found, has.typed f t typed, ?_⟩
  rw [← signature, target]
  simp only [typed, Option.bind_some, Signature.ofExport]
  cases Signature.ofFuncType t <;> rfl

theorem resolve_of_function {s : Signature} (listed : ⟨q, "func", some s⟩ ∈ m.exports) :
    ∃ f, i.resolve q = .ok (f, s) := by
  obtain ⟨e, f, t, -, -, -, -, found, typed, signed⟩ := has.funcType_of_listed listed
  refine ⟨f, resolve_eq_ok.mpr ⟨found, ?_⟩⟩
  rw [typed]
  cases signs : Signature.ofFuncType t with
  | ok s' =>
    rw [signs] at signed
    cases signed
    rfl
  | error u =>
    rw [signs] at signed
    cases signed

theorem resolve_of_reference (listed : ⟨q, "func", none⟩ ∈ m.exports) :
    ∃ e f t u, e ∈ m.module.exports ∧ e.name = q ∧ e.target = .func f ∧
      m.module.funcType f = some t ∧ (t.params ++ t.results).find? ValType.isReference = some u ∧
      i.resolve q = .error (.unsupportedType q u.text) := by
  obtain ⟨e, f, t, exported, name, target, declared, found, typed, unsigned⟩ :=
    has.funcType_of_listed listed
  cases signs : Signature.ofFuncType t with
  | ok s =>
    rw [signs] at unsigned
    cases unsigned
  | error u =>
    have first := Signature.ofFuncType_eq_error.mp signs
    refine ⟨e, f, t, u, exported, name, target, declared, first, ?_⟩
    simp [resolve, found, typed, Signature.ofExport, signs, Except.map]

end HasExports

variable {interface : Option String} {name : String} {e : Failure}

theorem call_ne_mismatch {f : Nat} {s : Signature} {args : List Value} {a b c : String}
    (resolves : i.resolve (qualify interface name) = .ok (f, s))
    (accepts : args.map Value.kind = s.params) :
    (i.call interface name args).1 ≠ .error (.signatureMismatch a b c) := by
  intro fails
  rcases refusal_or_trap_of_call fails with ⟨refusal, -⟩ | trap
  · cases refusal with
    | signatureMismatch found typed differ =>
      have same := resolves.symm.trans (resolve_eq_ok.mpr ⟨found, typed⟩)
      cases same
      exact differ accepts
  · cases trap

end Instance

namespace Registry

variable {r : Registry} {h : Handle} {m : GuestModule}

section

variable (r : Registry) (h : Handle) (interface : Option String) (name : String)

/-- The signature cannot be had, and calls fail for the same reason, whatever the arguments. -/
def Refuses (e : Failure) : Prop :=
  r.signature h interface name = .error e ∧ ∀ args, (r.call h interface name args).1 = .error e

/-- What a listing says of the name of an export holds for signatures and calls. -/
structure Agrees (m : GuestModule) : Prop where
  once : ∀ q, (m.exports.filter (·.name = q)).length ≤ 1
  absent : (∀ l ∈ m.exports, l.name ≠ qualify interface name) →
    r.Refuses h interface name (.exportNotFound (qualify interface name))
  function : ∀ s, ⟨qualify interface name, "func", some s⟩ ∈ m.exports →
    r.signature h interface name = .ok s ∧
      ∀ args, (args.map Value.kind ≠ s.params → (r.call h interface name args).1 =
          .error (.signatureMismatch (qualify interface name) (Value.Kind.joinNames s.params)
            (Value.Kind.joinNames (args.map Value.kind)))) ∧
        (args.map Value.kind = s.params → ∀ a b c,
          (r.call h interface name args).1 ≠ .error (.signatureMismatch a b c))
  reference : ⟨qualify interface name, "func", none⟩ ∈ m.exports →
    ∃ e f t u, e ∈ m.module.exports ∧ e.name = qualify interface name ∧ e.target = .func f ∧
      m.module.funcType f = some t ∧
      (t.params ++ t.results).find? Wasm.ValType.isReference = some u ∧
      r.Refuses h interface name (.unsupportedType (qualify interface name) u.text)
  other : ∀ kind s, ⟨qualify interface name, kind, s⟩ ∈ m.exports → kind ≠ "func" →
    r.Refuses h interface name (.notAFunction (qualify interface name) kind)

end

variable {i : Instance} {interface : Option String} {name : String} {e : Failure}

theorem refuses_of_unresolved (live : r.get? h = some i)
    (fails : i.resolve (qualify interface name) = .error e) : r.Refuses h interface name e := by
  refine ⟨?_, fun args => ?_⟩
  · rw [signature_of_live live, Instance.signature, fails]
    rfl
  · rw [call_of_live live, Instance.call_of_unresolved fails]

theorem agrees_of_hasExports (live : r.get? h = some i) (has : i.HasExports m) :
    r.Agrees h interface name m where
  once := GuestModule.length_filter_exports has.valid
  absent absent := refuses_of_unresolved live (has.resolve_of_absent absent)
  function s listed := by
    obtain ⟨f, resolves⟩ := has.resolve_of_function listed
    refine ⟨?_, fun args => ⟨fun differ => ?_, fun accepts a b c => ?_⟩⟩
    · rw [signature_of_live live, Instance.signature_eq_ok]
      exact ⟨f, resolves⟩
    · obtain ⟨found, typed⟩ := Instance.resolve_eq_ok.mp resolves
      have refused := Instance.callWith_of_refusal (.signatureMismatch found typed differ) i.enter
      rw [call_of_live live, Instance.call, refused]
    · rw [call_of_live live]
      exact Instance.call_ne_mismatch resolves accepts
  reference listed := by
    obtain ⟨e, f, t, u, exported, named, target, declared, first, fails⟩ :=
      has.resolve_of_reference listed
    exact ⟨e, f, t, u, exported, named, target, declared, first, refuses_of_unresolved live fails⟩
  other kind s listed other := refuses_of_unresolved live (has.resolve_of_other listed other)

theorem exports_agree {engine : Engine} {source : Source} {fuel : Option UInt64} {r₀ : Registry}
    (compiled : GuestModule.Compiled engine m) (loads : source.load r₀.engine = .ok m)
    (created : source.create r₀ fuel = .ok (h, r)) {since : List Op}
    (fair : ∀ change, Op.use h change ∉ since) (kept : h ∉ issuedBy (r.trace since))
    (live : (r.after since).contains h = true) (interface : Option String) (name : String) :
    (r.after since).Agrees h interface name m := by
  obtain ⟨m', i, pool, loads', made, rfl, rfl⟩ := create_eq_ok.mp created
  cases loads.symm.trans loads'
  have start : i.HasExports m := Instance.hasExports_of_create compiled.check made
  have always : ∀ i', ((r₀.enroll i pool).after since).get? r₀.freshHandle = some i' →
      i'.HasExports m := by
    refine live_after ?_ (fun issued => absurd issued kept) (fun _ op has => has.step op) fair
    intro i' found
    rw [get?_enroll, if_pos rfl] at found
    cases found
    exact start
  obtain ⟨i', live'⟩ := contains_iff.mp live
  exact agrees_of_hasExports live' (always i' live')

theorem exports_agree_mixed : ∃ r₀ r, create {} = .ok r₀ ∧
    GuestModule.ofBytes r₀.engine GuestModule.mixedBytes = .ok GuestModule.mixed ∧
    (Source.ofModule GuestModule.mixed).create r₀ none = .ok (1, r) ∧
    let since : List Op := [.call 1 none "run" [.i32 7], .writeBytes 1 0 [1]]
    (∀ change, Op.use 1 change ∉ since) ∧ (1 : Handle) ∉ issuedBy (r.trace since) ∧
      (r.after since).contains 1 = true ∧ ∀ name, (r.after since).Agrees 1 none name .mixed := by
  have runs : ∃ r₀ r, create {} = .ok r₀ ∧ r₀.engine.settings.pooling = false ∧
      (Source.ofModule GuestModule.mixed).create r₀ none = .ok (1, r) ∧
      (r.after [.call 1 none "run" [.i32 7], .writeBytes 1 0 [1]]).contains 1 = true :=
    ⟨_, _, rfl, rfl, rfl, rfl⟩
  obtain ⟨r₀, r, stands, separate, created, live⟩ := runs
  have compiles := GuestModule.ofBytes_mixed separate
  have fair : ∀ change, Op.use 1 change ∉
      ([.call 1 none "run" [.i32 7], .writeBytes 1 0 [1]] : List Op) := by simp
  have kept : (1 : Handle) ∉ issuedBy (r.trace
      [.call 1 none "run" [.i32 7], .writeBytes 1 0 [1]]) := List.not_mem_nil
  refine ⟨r₀, r, stands, compiles, created, fair, kept, live, fun name => ?_⟩
  exact exports_agree (.ofBytes compiles) rfl created fair kept live none name

end Registry

end ModuleHost
