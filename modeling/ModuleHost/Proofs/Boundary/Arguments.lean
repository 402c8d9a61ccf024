import ModuleHost.Proofs.Boundary.Delivery
import ModuleHost.Proofs.Boundary.Unusable
import ModuleHost.Proofs.Registry.Exports

namespace ModuleHost.Boundary

namespace PointerArray

variable {a a' : PointerArray} {s : Signature} {values : List Value} {e e' : Failure}

/-- Why arguments cannot be read. The first parameter without storage is named. -/
inductive Unreadable (a : PointerArray) (s : Signature) : Failure → Prop
  | nullArray (null : a = none) (needed : s.pointerCount ≠ 0) :
    Unreadable a s (.invalidArgument ("`args` must not be null for signature " ++ s.write))
  | nullParameter {k : Nat} {kind : Value.Kind} (present : a ≠ none)
    (isKind : s.params[k]? = some kind) (null : a.slot k = none)
    (first : ∀ j, j < k → a.slot j ≠ none) :
    Unreadable a s (.invalidArgument
      ("parameter " ++ toString k ++ " (" ++ kind.name ++ ") pointer is null"))

theorem Unreadable.unique (fails : a.Unreadable s e) (fails' : a.Unreadable s e') : e = e' := by
  cases fails with
  | nullArray null =>
    cases fails' with
    | nullArray => rfl
    | nullParameter present => exact absurd null present
  | @nullParameter k kind present isKind null first =>
    cases fails' with
    | nullArray null => exact absurd null present
    | @nullParameter k' kind' _ isKind' null' first' =>
      obtain rfl : k = k' := by
        rcases Nat.lt_trichotomy k k' with before | same | after
        · exact absurd null (first' k before)
        · exact same
        · exact absurd null' (first k' after)
      obtain rfl := Option.some.inj (isKind.symm.trans isKind')
      rfl

theorem unreadable_of_error (fails : a.arguments s = .error e) : a.Unreadable s e := by
  rcases arguments_eq_error fails with ⟨absent, rfl⟩ | ⟨covers, k, kind, isKind, null, first, rfl⟩
  · obtain ⟨null, needed⟩ := not_or.mp absent
    exact .nullArray (not_not.mp null) needed
  · have needed : s.pointerCount ≠ 0 := Nat.ne_of_gt (Nat.zero_lt_of_lt (lt_pointerCount isKind))
    exact .nullParameter (covers.resolve_right needed) isKind null first

theorem not_unreadable_of_ok (reads : a.arguments s = .ok values) : ¬ a.Unreadable s e := by
  obtain ⟨covers, -, each⟩ := arguments_eq_ok.mp reads
  intro fails
  cases fails with
  | nullArray null needed => exact covers.elim (absurd null) needed
  | nullParameter _ isKind null =>
    obtain ⟨c, v, points, -⟩ := each _ _ isKind
    cases null.symm.trans points

theorem arguments_eq_error_iff : a.arguments s = .error e ↔ a.Unreadable s e := by
  refine ⟨unreadable_of_error, fun fails => ?_⟩
  cases reads : a.arguments s with
  | ok values => exact absurd fails (not_unreadable_of_ok reads)
  | error e' => rw [(unreadable_of_error reads).unique fails]

theorem map_kind_of_reads (reads : a.Reads s.params values) :
    values.map Value.kind = s.params := by
  obtain ⟨length, each⟩ := reads
  refine List.ext_getElem (by rw [List.length_map, length]) fun k inside inside' => ?_
  obtain ⟨c, v, -, value, was⟩ := each k _ (List.getElem?_eq_getElem inside')
  obtain ⟨bound, rfl⟩ := List.getElem?_eq_some_iff.mp value
  rw [List.getElem_map, (Value.ofBytes_eq_ok.mp was).1]

theorem requireArgs_of_reads (reads : a.Reads s.params values) (name : String) :
    s.requireArgs name values = .ok () :=
  Signature.requireArgs_eq_ok.mpr (map_kind_of_reads reads)

/-- Arrays that are alike where parameters of some kinds are read: in being null, in the null
pointers among their first slots, and in the bytes that those kinds have of the others. -/
structure Alike (a : PointerArray) (kinds : List Value.Kind) (a' : PointerArray) : Prop where
  null : a' = none ↔ a = none
  bytes : ∀ (k : Nat) kind, kinds[k]? = some kind →
    (a'.slot k).map (fun c => c.toList.take kind.size) =
      (a.slot k).map fun c => c.toList.take kind.size

namespace Alike

variable {kinds : List Value.Kind} (alike : a.Alike kinds a')

include alike

theorem slot_eq_none {k : Nat} (inside : k < kinds.length) :
    a'.slot k = none ↔ a.slot k = none := by
  have bytes := alike.bytes k _ (List.getElem?_eq_getElem inside)
  rw [← Option.map_eq_none_iff, bytes, Option.map_eq_none_iff]

theorem covers (covers : a.Covers s) : a'.Covers s :=
  covers.imp_left fun present null => present (alike.null.mp null)

theorem reads (reads : a.Reads kinds values) : a'.Reads kinds values := by
  refine ⟨reads.1, fun k kind isKind => ?_⟩
  obtain ⟨c, v, points, value, was⟩ := reads.2 k kind isKind
  have bytes := alike.bytes k kind isKind
  rw [points, Option.map_some, Option.map_eq_some_iff] at bytes
  obtain ⟨c', points', same⟩ := bytes
  exact ⟨c', v, points', value, same ▸ was⟩

end Alike

theorem Unreadable.of_alike (fails : a.Unreadable s e) (alike : a.Alike s.params a') :
    a'.Unreadable s e := by
  cases fails with
  | nullArray null needed => exact .nullArray (alike.null.mpr null) needed
  | nullParameter present isKind null first =>
    have inside := (List.getElem?_eq_some_iff.mp isKind).1
    refine .nullParameter (fun null => present (alike.null.mp null)) isKind
      ((alike.slot_eq_none inside).mpr null) fun j before null => ?_
    exact first j before ((alike.slot_eq_none (before.trans inside)).mp null)

theorem arguments_of_alike (alike : a.Alike s.params a') : a'.arguments s = a.arguments s := by
  cases answers : a.arguments s with
  | ok values =>
    obtain ⟨covers, reads⟩ := arguments_eq_ok.mp answers
    exact arguments_eq_ok.mpr ⟨alike.covers covers, alike.reads reads⟩
  | error e =>
    exact arguments_eq_error_iff.mpr ((arguments_eq_error_iff.mp answers).of_alike alike)

end PointerArray

namespace InPlace

def readEach : Nat → List Value.Kind → InPlace (List Value)
  | _, [] => return []
  | k, kind :: kinds => do
    match (← get).slot k with
    | none =>
      throw (.invalidArgument
        ("parameter " ++ toString k ++ " (" ++ kind.name ++ ") pointer is null"))
    | some c => return c.read kind :: (← readEach (k + 1) kinds)

def arguments (s : Signature) : InPlace (List Value) := do
  match (← get).pointers s with
  | .ok _ => readEach 0 s.params
  | .error e => throw e

def leaving {α : Type} (a : PointerArray) : Except Failure α → EStateM.Result Failure PointerArray α
  | .ok x => .ok x a
  | .error e => .error e a

variable {a : PointerArray}

theorem run_map {α β : Type} {x : InPlace α} {answer : Except Failure α} (f : α → β)
    (runs : x.run a = leaving a answer) :
    (do return f (← x) : InPlace β).run a = leaving a (answer.map f) := by
  rw [EStateM.run] at runs
  simp only [EStateM.run, bind, EStateM.bind, runs]
  cases answer <;> rfl

theorem run_readEach {k : Nat} {kinds : List Value.Kind} {cells : List (Option Cell)}
    (listed : ∀ j, j < kinds.length → cells[j]? = some (a.slot (k + j))) :
    (readEach k kinds).run a = leaving a (PointerArray.readFrom k kinds cells) := by
  induction kinds generalizing k cells with
  | nil => rfl
  | cons kind kinds ih =>
    have first := listed 0 (Nat.zero_lt_succ _)
    cases cells with
    | nil => cases first
    | cons cell cells =>
      obtain rfl : cell = a.slot k := Option.some.inj first
      have rest : ∀ j, j < kinds.length → cells[j]? = some (a.slot (k + 1 + j)) := by
        intro j inside
        rw [Nat.add_assoc, Nat.add_comm 1 j]
        exact listed (j + 1) (Nat.succ_lt_succ inside)
      have reads : (readEach k (kind :: kinds)).run a =
          (match a.slot k with
            | none => throw (.invalidArgument
                ("parameter " ++ toString k ++ " (" ++ kind.name ++ ") pointer is null"))
            | some c => return c.read kind :: (← readEach (k + 1) kinds) : InPlace _).run a := rfl
      rw [reads]
      cases a.slot k with
      | none => rfl
      | some c => exact run_map (c.read kind :: ·) (ih rest)

theorem run_arguments (a : PointerArray) (s : Signature) :
    (arguments s).run a = leaving a (a.arguments s) := by
  have checks : (arguments s).run a =
      (match a.pointers s with | .ok _ => readEach 0 s.params | .error e => throw e : InPlace _).run
        a := rfl
  rw [checks, PointerArray.arguments]
  cases pointers : a.pointers s with
  | error e => rfl
  | ok cells =>
    obtain ⟨-, rfl⟩ := PointerArray.pointers_eq_ok.mp pointers
    refine run_readEach fun j inside => ?_
    rw [Nat.zero_add]
    exact PointerArray.getElem?_pointers (Nat.lt_add_right _ inside)

end InPlace

section

variable {r r' : Registry} {h : Handle} {interface name : Option (List UInt8)} {a : PointerArray}
  {e : Failure} {i : Option String} {n : String}

def NoMismatch (e : Failure) : Prop :=
  ∀ n expected actual, e ≠ .signatureMismatch n expected actual

theorem noMismatch_of_signature (untyped : r.signature h i n = .error e) : NoMismatch e := by
  rintro n' expected actual rfl
  cases live : r.get? h with
  | none =>
    rw [Registry.signature_of_dead live] at untyped
    cases untyped
  | some x =>
    rw [Registry.signature_of_live live] at untyped
    have fails : x.resolve (qualify i n) = _ := map_eq_error.mp untyped
    -- Whatever the arguments would be, no signature is there to match them.
    have refusal : x.Refusal (qualify i n) [] _ := Instance.refusal_of_resolve fails
    cases refusal with
    | signatureMismatch found typed =>
      rw [Instance.resolve_eq_ok.mpr ⟨found, typed⟩] at fails
      cases fails

theorem noMismatch_of_call {s : Signature} {args : List Value}
    (accepted : Accepted r h interface name a i n s args)
    (fails : (r.call h i n args).1 = .error e) : NoMismatch e := by
  have typed := accepted.typed
  cases live : r.get? h with
  | none =>
    rw [Registry.signature_of_dead live] at typed
    cases typed
  | some x =>
    rw [Registry.signature_of_live live] at typed
    obtain ⟨f, resolves⟩ := Instance.signature_eq_ok.mp typed
    rw [Registry.call_of_live live] at fails
    rintro n' expected actual rfl
    exact Instance.call_ne_mismatch resolves (PointerArray.map_kind_of_reads accepted.reads) fails

theorem FirstFailure.noMismatch (first : FirstFailure r h interface name a e r') :
    NoMismatch e := by
  cases first with
  | signature _ untyped => exact noMismatch_of_signature untyped
  | call accepted fails => exact noMismatch_of_call accepted fails
  | nullHandle | interface | nullName | name | nullArray | nullParameter | nullResult => exact nofun

theorem Rejection.noMismatch (rejected : Rejection h interface name e) : NoMismatch e := by
  cases rejected <;> exact nofun

end

theorem invoke_noMismatch (p : Embedding) (t : Thread) (h : Handle)
    (interface name : Option (List UInt8)) (a : PointerArray) :
    (p.invoke t h interface name a).1 = true ∨
      ∃ (e : Failure) (p' : Embedding),
        p.invoke t h interface name a = (false, a, p'.fail t e) ∧ NoMismatch e := by
  obtain ⟨registry, errors⟩ := p
  cases registry with
  | ok r =>
    have outcome : Outcome r errors t h interface name a
        (Embedding.invoke ⟨.ok r, errors⟩ t h interface name a) := outcome_invoke t
    generalize Embedding.invoke ⟨.ok r, errors⟩ t h interface name a = result at outcome
    cases outcome with
    | success => exact .inl rfl
    | failure first => exact .inr ⟨_, _, rfl, first.noMismatch⟩
  | error reason =>
    right
    rcases Embedding.target_or_rejection h interface name with ⟨i, n, target⟩ | ⟨e, rejected⟩
    · refine ⟨Embedding.unusable reason, ⟨.error reason, errors⟩, ?_, nofun⟩
      rw [Embedding.invoke, Embedding.readTarget_of_error rfl target]
    · refine ⟨e, ⟨.error reason, errors⟩, ?_, rejected.noMismatch⟩
      rw [Embedding.invoke, Embedding.readTarget_of_rejection rejected]

/-- What is read from an array for a signature: the values that its slots stand for, which the
signature accepts, or why there are none. It is read in place, and only where parameters are. -/
structure ReadsExactly (a : PointerArray) (s : Signature) : Prop where
  fails : ∀ e, a.arguments s = .error e ↔ a.Unreadable s e
  succeeds : ∀ values, a.arguments s = .ok values ↔ a.Covers s ∧ a.Reads s.params values
  accepted : ∀ values, a.arguments s = .ok values →
    values.length = s.params.length ∧ ∀ name, s.requireArgs name values = .ok ()
  inPlace : (InPlace.arguments s).run a = InPlace.leaving a (a.arguments s)
  alike : ∀ a', a.Alike s.params a' → a'.arguments s = a.arguments s

theorem arguments_exact (a : PointerArray) (s : Signature) :
    ReadsExactly a s ∧ ∀ (p : Embedding) t h interface name,
      (p.invoke t h interface name a).1 = true ∨
        ∃ (e : Failure) (p' : Embedding),
          p.invoke t h interface name a = (false, a, p'.fail t e) ∧ NoMismatch e := by
  refine ⟨?_, fun p t h interface name => invoke_noMismatch p t h interface name a⟩
  refine
    { fails := fun _ => PointerArray.arguments_eq_error_iff
      succeeds := fun _ => PointerArray.arguments_eq_ok
      accepted := fun values reads => ?_
      inPlace := InPlace.run_arguments a s
      alike := fun _ => PointerArray.arguments_of_alike }
  obtain ⟨-, reads⟩ := PointerArray.arguments_eq_ok.mp reads
  exact ⟨reads.1, PointerArray.requireArgs_of_reads reads⟩

end ModuleHost.Boundary
