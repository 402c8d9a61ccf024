import ModuleHost.Proofs.Boundary.Invocation
import ModuleHost.Proofs.Instance.Soundness
import ModuleHost.Proofs.Registry.Exports

namespace ModuleHost

namespace Boundary.PointerArray

/-- Every slot for a result starts with the bytes of a value of the declared kind, and nothing else
has changed. -/
structure Filled (a : PointerArray) (s : Signature) (results : List Value) (a' : PointerArray) :
    Prop where
  shape : a'.map List.length = a.map List.length
  written : ∀ (j : Nat) kind, s.results[j]? = some kind → ∃ (v : Value) (c c' : Cell),
    results[j]? = some v ∧ v.toBytes.length = kind.size ∧
      a.slot (s.params.length + j) = some c ∧ a'.slot (s.params.length + j) = some c' ∧
      c'.toList = v.toBytes ++ c.toList.drop kind.size
  others : ∀ k, k < s.params.length ∨ s.params.length + s.results.length ≤ k →
    a'.slot k = a.slot k

theorem Delivered.filled {a a' : PointerArray} {s : Signature} {results : List Value}
    (delivered : a.Delivered s results a') (kinds : results.map Value.kind = s.results) :
    a.Filled s results a' := by
  refine ⟨delivered.shape, fun j kind isKind => ?_, fun k outside => delivered.others k ?_⟩
  · rw [← kinds, List.getElem?_map] at isKind
    obtain ⟨v, value, rfl⟩ := Option.map_eq_some_iff.mp isKind
    obtain ⟨c, c', points, points', same⟩ := delivered.written j v value
    rw [Value.length_toBytes] at same
    exact ⟨v, c, c', value, v.length_toBytes, points, points', same⟩
  · rwa [← kinds, List.length_map] at outside

end Boundary.PointerArray

namespace Registry

section

variable {r : Registry} {h : Handle} {i i' : Instance} {since : List Op}

theorem store_after (new : r.get? h = some i)
    (fair : ∀ change, Op.use h change ∉ since) (kept : h ∉ issuedBy (r.trace since))
    (live : (r.after since).get? h = some i') : ∃ store, i' = { i with store } := by
  refine live_after (P := fun i' => ∃ store, i' = { i with store }) (fun i' found => ?_)
    (fun issued => absurd issued kept) (fun i' op same => ?_) fair i' live
  · obtain rfl := Option.some.inj (new.symm.trans found)
    exact ⟨i.store, rfl⟩
  · obtain ⟨before, rfl⟩ := same
    obtain ⟨store, after, -⟩ := Instance.step_spends { i with store := before } op
    exact ⟨store, after⟩

end

/-- What a call of an export with a signature returns, and what a caller from outside finds. -/
structure Returns (r : Registry) (h : Handle) (interface : Option String) (name : String)
    (s : Signature) : Prop where
  values : ∀ args results, (r.call h interface name args).1 = .ok results →
    results.map Value.kind = s.results
  operands : ∀ args results, (r.call h interface name args).1 = .ok results →
    ∃ i f operands store, r.get? h = some i ∧
      i.Leaves (qualify interface name) args results f operands store
  slots : ∀ errors t interfaceBytes nameBytes a,
    Boundary.Target h interfaceBytes nameBytes interface name →
    (Boundary.Embedding.invoke ⟨.ok r, errors⟩ t h interfaceBytes nameBytes a).1 = true →
    ∃ args results, (r.call h interface name args).1 = .ok results ∧
      a.Filled s results
        (Boundary.Embedding.invoke ⟨.ok r, errors⟩ t h interfaceBytes nameBytes a).2.1

variable {source : Source} {fuel : Option UInt64} {r₀ r : Registry} {h : Handle}
  {interface : Option String} {name : String} {s : Signature}

theorem slots_of_values (typed : r.signature h interface name = .ok s)
    (values : ∀ args results, (r.call h interface name args).1 = .ok results →
      results.map Value.kind = s.results) {errors : Boundary.Thread → Boundary.ErrorSlot}
    {t : Boundary.Thread}
    {interfaceBytes : Option (List UInt8)} {nameBytes : Option (List UInt8)}
    {a : Boundary.PointerArray}
    (target : Boundary.Target h interfaceBytes nameBytes interface name)
    (succeeds : (Boundary.Embedding.invoke ⟨.ok r, errors⟩ t h interfaceBytes nameBytes a).1 =
      true) :
    ∃ args results, (r.call h interface name args).1 = .ok results ∧
      a.Filled s results
        (Boundary.Embedding.invoke ⟨.ok r, errors⟩ t h interfaceBytes nameBytes a).2.1 := by
  have outcome : Boundary.Outcome r errors t h interfaceBytes nameBytes a
      (Boundary.Embedding.invoke ⟨.ok r, errors⟩ t h interfaceBytes nameBytes a) :=
    Boundary.outcome_invoke t
  generalize Boundary.Embedding.invoke ⟨.ok r, errors⟩ t h interfaceBytes nameBytes a = answer
    at outcome succeeds ⊢
  cases outcome with
  | failure => cases succeeds
  | success accepted answers count delivered =>
    obtain ⟨rfl, rfl⟩ := accepted.target.unique target
    obtain rfl := Except.ok.inj (accepted.typed.symm.trans typed)
    exact ⟨_, _, answers, delivered.filled (values _ _ answers)⟩

theorem returns_of_live {i : Instance} (live : r.get? h = some i) (sound : i.Typed)
    (typed : i.signature interface name = .ok s) : r.Returns h interface name s := by
  have values : ∀ args results, (r.call h interface name args).1 = .ok results →
      results.map Value.kind = s.results := by
    intro args results answers
    rw [call_of_live live] at answers
    exact Instance.map_kind_of_call typed answers
  refine ⟨values, fun args results answers => ?_, fun errors t interfaceBytes nameBytes a target
    succeeds => slots_of_values ((signature_of_live live).trans typed) values target succeeds⟩
  rw [call_of_live live] at answers
  obtain ⟨f, operands, store, leaves⟩ := sound.leaves answers
  exact ⟨i, f, operands, store, live, leaves⟩

theorem results_as_declared {engine : Engine} {m : GuestModule}
    (compiled : GuestModule.Compiled engine m) (loads : source.load r₀.engine = .ok m)
    (created : source.create r₀ fuel = .ok (h, r)) {asked since : List Op}
    (fair : ∀ change, Op.use h change ∉ since) (kept : h ∉ issuedBy (r.trace since))
    (fair' : ∀ change, Op.use h change ∉ asked) (kept' : h ∉ issuedBy (r.trace asked))
    (live : (r.after since).contains h = true)
    (typed : (r.after asked).signature h interface name = .ok s) :
    (r.after since).Returns h interface name s := by
  obtain ⟨m', i, pool, loads', made, rfl, rfl⟩ := create_eq_ok.mp created
  cases loads.symm.trans loads'
  have new : (r₀.enroll i pool).get? r₀.freshHandle = some i := by
    rw [get?_enroll, if_pos rfl]
  have start : i.Typed := Instance.creationLaws.typed compiled.check compiled.sized made
  have sound : ∀ i', ((r₀.enroll i pool).after since).get? r₀.freshHandle = some i' →
      i'.Typed := by
    refine live_after (fun i' found => ?_) (fun issued => absurd issued kept)
      (fun _ op typed => typed.step op) fair
    obtain rfl := Option.some.inj (new.symm.trans found)
    exact start
  obtain ⟨i₁, live₁⟩ := contains_iff.mp live
  obtain ⟨store₁, rfl⟩ := store_after new fair kept live₁
  cases live₂ : ((r₀.enroll i pool).after asked).get? r₀.freshHandle with
  | none =>
    rw [signature_of_dead live₂] at typed
    cases typed
  | some i₂ =>
    obtain ⟨store₂, rfl⟩ := store_after new fair' kept' live₂
    rw [signature_of_live live₂] at typed
    exact returns_of_live live₁ (sound _ live₁) typed

theorem results_as_declared_mixed : ∃ r₀ r, create {} = .ok r₀ ∧
    GuestModule.ofBytes r₀.engine GuestModule.mixedBytes = .ok GuestModule.mixed ∧
    (Source.ofModule GuestModule.mixed).create r₀ none = .ok (1, r) ∧
    let since : List Op := [.call 1 none "run" [.i32 7], .writeBytes 1 0 [1]]
    (∀ change, Op.use 1 change ∉ since) ∧ (1 : Handle) ∉ issuedBy (r.trace since) ∧
      (r.after since).contains 1 = true ∧ r.signature 1 none "run" = .ok ⟨[.i32], [.i32]⟩ ∧
      (r.after since).Returns 1 none "run" ⟨[.i32], [.i32]⟩ := by
  have runs : ∃ r₀ r, create {} = .ok r₀ ∧ r₀.engine.settings.pooling = false ∧
      (Source.ofModule GuestModule.mixed).create r₀ none = .ok (1, r) ∧
      (r.after [.call 1 none "run" [.i32 7], .writeBytes 1 0 [1]]).contains 1 = true ∧
      r.signature 1 none "run" = .ok ⟨[.i32], [.i32]⟩ :=
    ⟨_, _, rfl, rfl, rfl, rfl, rfl⟩
  obtain ⟨r₀, r, stands, separate, created, live, typed⟩ := runs
  have compiles := GuestModule.ofBytes_mixed separate
  have fair : ∀ change, Op.use 1 change ∉
      ([.call 1 none "run" [.i32 7], .writeBytes 1 0 [1]] : List Op) := by simp
  have kept : (1 : Handle) ∉ issuedBy (r.trace
      [.call 1 none "run" [.i32 7], .writeBytes 1 0 [1]]) := List.not_mem_nil
  have fair' : ∀ change, Op.use 1 change ∉ ([] : List Op) := by simp
  have kept' : (1 : Handle) ∉ issuedBy (r.trace []) := List.not_mem_nil
  refine ⟨r₀, r, stands, compiles, created, fair, kept, live, typed, ?_⟩
  exact results_as_declared (.ofBytes compiles) rfl created fair kept fair' kept' live typed

end Registry

end ModuleHost
