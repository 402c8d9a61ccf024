import Mathlib.Tactic
import ModuleHost.Boundary.Embedding
import ModuleHost.Proofs.Boundary.Slots
import ModuleHost.Proofs.Instance.Dispatch
import ModuleHost.Proofs.Registry.Basic
import ModuleHost.Proofs.Utf8

namespace ModuleHost.Boundary

/-! ## What a call needs -/

def Names (bytes : List UInt8) (text : String) : Prop :=
  Utf8.encode text = bytes.takeWhile (· ≠ 0)

section

variable (r : Registry) (h : Handle) (interface name : Option (List UInt8)) (a : PointerArray)

/-- The pointers of a call name an instance, an interface or none, and a function. -/
structure Target (i : Option String) (n : String) : Prop where
  handle : h ≠ 0
  interface : Option.Rel Names interface i
  name : ∃ bytes, name = some bytes ∧ Names bytes n

/-- What a call is rejected for before the registry is needed. -/
inductive Rejection : Failure → Prop
  | nullHandle (null : h = 0) : Rejection (.invalidArgument "`instance_ptr` must not be null")
  | interface {bytes : List UInt8} {fault : Utf8.Fault} (handle : h ≠ 0)
    (given : interface = some bytes)
    (faulty : Utf8.decode (bytes.takeWhile (· ≠ 0)) = .error fault) :
    Rejection (.invalidArgument ("`instance` is not valid UTF-8: " ++ fault.message))
  | nullName {i : Option String} (handle : h ≠ 0) (reads : Option.Rel Names interface i)
    (null : name = none) : Rejection (.invalidArgument "`name` must not be null")
  | name {i : Option String} {bytes : List UInt8} {fault : Utf8.Fault} (handle : h ≠ 0)
    (reads : Option.Rel Names interface i) (given : name = some bytes)
    (faulty : Utf8.decode (bytes.takeWhile (· ≠ 0)) = .error fault) :
    Rejection (.invalidArgument ("`name` is not valid UTF-8: " ++ fault.message))

/-- All that a call is passed is in order: the export has a signature, and the slots hold arguments
and have room for results. -/
structure Accepted (i : Option String) (n : String) (s : Signature) (args : List Value) :
    Prop where
  target : Target h interface name i n
  typed : r.signature h i n = .ok s
  covers : a.Covers s
  reads : a.Reads s.params args
  room : a.HasRoom s

/-- What fails first, in the order in which a call looks at things, and the registry then. -/
inductive FirstFailure : Failure → Registry → Prop
  | nullHandle (null : h = 0) :
    FirstFailure (.invalidArgument "`instance_ptr` must not be null") r
  | interface {bytes : List UInt8} {fault : Utf8.Fault} (handle : h ≠ 0)
    (given : interface = some bytes)
    (faulty : Utf8.decode (bytes.takeWhile (· ≠ 0)) = .error fault) :
    FirstFailure (.invalidArgument ("`instance` is not valid UTF-8: " ++ fault.message)) r
  | nullName {i : Option String} (handle : h ≠ 0) (reads : Option.Rel Names interface i)
    (null : name = none) :
    FirstFailure (.invalidArgument "`name` must not be null") r
  | name {i : Option String} {bytes : List UInt8} {fault : Utf8.Fault} (handle : h ≠ 0)
    (reads : Option.Rel Names interface i) (given : name = some bytes)
    (faulty : Utf8.decode (bytes.takeWhile (· ≠ 0)) = .error fault) :
    FirstFailure (.invalidArgument ("`name` is not valid UTF-8: " ++ fault.message)) r
  | signature {i : Option String} {n : String} {e : Failure} (target : Target h interface name i n)
    (untyped : r.signature h i n = .error e) :
    FirstFailure e r
  | nullArray {i : Option String} {n : String} {s : Signature}
    (target : Target h interface name i n) (typed : r.signature h i n = .ok s)
    (absent : ¬ a.Covers s) :
    FirstFailure (.invalidArgument ("`args` must not be null for signature " ++ s.write)) r
  | nullParameter {i : Option String} {n : String} {s : Signature} {k : Nat} {kind : Value.Kind}
    (target : Target h interface name i n) (typed : r.signature h i n = .ok s)
    (covers : a.Covers s) (isKind : s.params[k]? = some kind) (null : a.slot k = none)
    (first : ∀ j, j < k → a.slot j ≠ none) :
    FirstFailure (.invalidArgument
      ("parameter " ++ toString k ++ " (" ++ kind.name ++ ") pointer is null")) r
  | nullResult {i : Option String} {n : String} {s : Signature} {args : List Value} {j : Nat}
    (target : Target h interface name i n) (typed : r.signature h i n = .ok s)
    (covers : a.Covers s) (reads : a.Reads s.params args) (isResult : j < s.results.length)
    (null : a.slot (s.params.length + j) = none)
    (first : ∀ k, k < j → a.slot (s.params.length + k) ≠ none) :
    FirstFailure (.invalidArgument ("result " ++ toString j ++ " pointer is null")) r
  | call {i : Option String} {n : String} {s : Signature} {args : List Value} {e : Failure}
    (accepted : Accepted r h interface name a i n s args)
    (fails : (r.call h i n args).1 = .error e) :
    FirstFailure e (r.call h i n args).2

end

open PointerArray (arguments_eq_ok arguments_eq_error requireRoom_eq_ok requireRoom_eq_error
  deliver_eq_ok)

variable {r : Registry} {h : Handle} {interface name : Option (List UInt8)} {a : PointerArray}
  {errors : Thread → ErrorSlot} {i : Option String} {n : String} {s : Signature}
  {args results : List Value} {e : Failure}

/-! ## Texts -/

theorem Names.unique {bytes : List UInt8} {text text' : String} (names : Names bytes text)
    (names' : Names bytes text') : text = text' :=
  Except.ok.inj (((Utf8.decode_eq_ok_iff _ _).mpr names).symm.trans
    ((Utf8.decode_eq_ok_iff _ _).mpr names'))

theorem readString_eq_ok {what text : String} {bytes : List UInt8} :
    Embedding.readString what bytes = .ok text ↔ Names bytes text := by
  rw [Embedding.readString, mapError_eq_ok, Utf8.decode_eq_ok_iff, Names]

theorem readString_eq_error {what : String} {bytes : List UInt8} :
    Embedding.readString what bytes = .error e ↔ ∃ fault,
      Utf8.decode (bytes.takeWhile (· ≠ 0)) = .error fault ∧
        .invalidArgument ("`" ++ what ++ "` is not valid UTF-8: " ++ fault.message) = e :=
  mapError_eq_error

theorem mapM_readString_eq_ok {what : String} :
    interface.mapM (Embedding.readString what) = .ok i ↔ Option.Rel Names interface i := by
  cases interface with
  | none =>
    constructor
    · intro same
      cases same
      exact .none
    · rintro ⟨⟩
      rfl
  | some bytes =>
    have eq : (some bytes).mapM (Embedding.readString what) =
      (Embedding.readString what bytes).map some := rfl
    rw [eq, map_eq_ok]
    constructor
    · rintro ⟨text, reads, rfl⟩
      exact .some (readString_eq_ok.mp reads)
    · rintro ⟨names⟩
      exact ⟨_, readString_eq_ok.mpr names, rfl⟩

theorem mapM_readString_eq_error {what : String} :
    interface.mapM (Embedding.readString what) = .error e ↔
      ∃ bytes, interface = some bytes ∧ Embedding.readString what bytes = .error e := by
  cases interface with
  | none => exact ⟨nofun, fun ⟨_, given, _⟩ => nomatch given⟩
  | some bytes =>
    have eq : (some bytes).mapM (Embedding.readString what) =
      (Embedding.readString what bytes).map some := rfl
    rw [eq, map_eq_error]
    simp

/-! ## Targets -/

namespace Embedding

variable {p : Embedding}

theorem readTarget_zero (null : h = 0) : p.readTarget h interface name =
    .error (.invalidArgument "`instance_ptr` must not be null") := by
  rw [readTarget, if_pos null]
  rfl

theorem readTarget_of_ne_zero (handle : h ≠ 0) :
    p.readTarget h interface name =
      interface.mapM (readString "instance") >>= fun i =>
        match name with
        | none => .error (.invalidArgument "`name` must not be null")
        | some bytes => readString "name" bytes >>= fun n => p.theRegistry >>= fun r =>
          .ok (i, n, r) := by
  rw [readTarget, if_neg handle]
  rfl

theorem readTarget_of_target (target : Target h interface name i n) :
    p.readTarget h interface name = p.theRegistry >>= fun r => .ok (i, n, r) := by
  obtain ⟨handle, reads, bytes, rfl, names⟩ := target
  rw [readTarget_of_ne_zero handle, mapM_readString_eq_ok.mpr reads]
  show (readString "name" bytes >>= fun n => p.theRegistry >>= fun r => .ok (i, n, r)) = _
  rw [readString_eq_ok.mpr names]
  rfl

theorem readTarget_of_rejection (rejected : Rejection h interface name e) :
    p.readTarget h interface name = .error e := by
  cases rejected with
  | nullHandle null => exact readTarget_zero null
  | interface handle given faulty =>
    have fails := mapM_readString_eq_error.mpr
      ⟨_, given, (@readString_eq_error _ "instance" _).mpr ⟨_, faulty, rfl⟩⟩
    rw [readTarget_of_ne_zero handle, fails]
    rfl
  | nullName handle reads null =>
    rw [readTarget_of_ne_zero handle, mapM_readString_eq_ok.mpr reads, null]
    rfl
  | @name _ bytes fault handle reads given faulty =>
    have fails : readString "name" bytes = _ := readString_eq_error.mpr ⟨fault, faulty, rfl⟩
    rw [readTarget_of_ne_zero handle, mapM_readString_eq_ok.mpr reads, given]
    show (readString "name" bytes >>= fun n => p.theRegistry >>= fun r => .ok (_, n, r)) = _
    rw [fails]
    rfl

theorem target_or_rejection (h : Handle) (interface name : Option (List UInt8)) :
    (∃ i n, Target h interface name i n) ∨ ∃ e, Rejection h interface name e := by
  by_cases null : h = 0
  · exact .inr ⟨_, .nullHandle null⟩
  cases reads : interface.mapM (readString "instance") with
  | error e =>
    obtain ⟨bytes, given, fails⟩ := mapM_readString_eq_error.mp reads
    obtain ⟨fault, faulty, -⟩ := readString_eq_error.mp fails
    exact .inr ⟨_, .interface null given faulty⟩
  | ok i =>
    rw [mapM_readString_eq_ok] at reads
    cases name with
    | none => exact .inr ⟨_, .nullName null reads rfl⟩
    | some bytes =>
      cases named : readString "name" bytes with
      | ok n => exact .inl ⟨i, n, null, reads, bytes, rfl, readString_eq_ok.mp named⟩
      | error e =>
        obtain ⟨fault, faulty, -⟩ := readString_eq_error.mp named
        exact .inr ⟨_, .name null reads rfl faulty⟩

theorem readTarget_eq_ok : p.readTarget h interface name = .ok (i, n, r) ↔
    Target h interface name i n ∧ p.theRegistry = .ok r := by
  constructor
  · intro reads
    rcases target_or_rejection h interface name with ⟨i', n', target⟩ | ⟨e, rejected⟩
    · rw [readTarget_of_target target] at reads
      obtain ⟨_, stands, same⟩ := bind_eq_ok.mp reads
      cases same
      exact ⟨target, stands⟩
    · cases (readTarget_of_rejection rejected).symm.trans reads
  · rintro ⟨target, stands⟩
    rw [readTarget_of_target target, stands]
    rfl

end Embedding

theorem Rejection.firstFailure (rejected : Rejection h interface name e) :
    FirstFailure r h interface name a e r := by
  cases rejected with
  | nullHandle null => exact .nullHandle null
  | interface handle given faulty => exact .interface handle given faulty
  | nullName handle reads null => exact .nullName handle reads null
  | name handle reads given faulty => exact .name handle reads given faulty

theorem firstFailure_of_readTarget
    (fails : Embedding.readTarget ⟨.ok r, errors⟩ h interface name = .error e) :
    FirstFailure r h interface name a e r := by
  rcases Embedding.target_or_rejection h interface name with ⟨i, n, target⟩ | ⟨e', rejected⟩
  · cases (Embedding.readTarget_eq_ok.mpr ⟨target, rfl⟩).symm.trans fails
  · cases (Embedding.readTarget_of_rejection rejected).symm.trans fails
    exact rejected.firstFailure

/-! ## The call of an instance -/

section CallOn

variable {x : Instance}

theorem callOn_of_ok (typed : x.signature i n = .ok s) (reads : a.arguments s = .ok args)
    (room : a.requireRoom s = .ok ()) (answers : (x.call i n args).1 = .ok results) :
    Embedding.callOn x i n a = (a.deliver s results, (x.call i n args).2) := by
  simp only [Embedding.callOn, typed, reads, room, bind, Except.bind, pure, Except.pure]
  generalize x.call i n args = answer at answers ⊢
  obtain ⟨outcome, after⟩ := answer
  cases answers
  rfl

theorem callOn_of_error (typed : x.signature i n = .ok s) (reads : a.arguments s = .ok args)
    (room : a.requireRoom s = .ok ()) (fails : (x.call i n args).1 = .error e) :
    Embedding.callOn x i n a = (.error e, (x.call i n args).2) := by
  simp only [Embedding.callOn, typed, reads, room, bind, Except.bind, pure, Except.pure]
  generalize x.call i n args = answer at fails ⊢
  obtain ⟨outcome, after⟩ := answer
  cases fails
  rfl

theorem callOn_of_unprepared
    (fails : (x.signature i n >>= fun s => a.arguments s >>= fun _ => a.requireRoom s) = .error e) :
    Embedding.callOn x i n a = (.error e, x) := by
  rcases bind_eq_error.mp fails with untyped | ⟨s, typed, fails⟩
  · simp only [Embedding.callOn, untyped, bind, Except.bind]
  · rcases bind_eq_error.mp fails with missing | ⟨args, reads, fails⟩
    · simp only [Embedding.callOn, typed, missing, bind, Except.bind]
    · simp only [Embedding.callOn, typed, reads, fails, bind, Except.bind]

end CallOn

/-! ## The call of the registry -/

theorem firstFailure_of_unprepared {x : Instance} (target : Target h interface name i n)
    (live : r.get? h = some x)
    (fails : (x.signature i n >>= fun s => a.arguments s >>= fun _ => a.requireRoom s) = .error e) :
    FirstFailure r h interface name a e r := by
  rw [← Registry.signature_of_live live] at fails
  rcases bind_eq_error.mp fails with untyped | ⟨s, typed, fails⟩
  · exact .signature target untyped
  rcases bind_eq_error.mp fails with missing | ⟨args, reads, full⟩
  · rcases arguments_eq_error missing with
      ⟨absent, rfl⟩ | ⟨covers, k, kind, isKind, null, first, rfl⟩
    · exact .nullArray target typed absent
    · exact .nullParameter target typed covers isKind null first
  · obtain ⟨covers, reads⟩ := arguments_eq_ok.mp reads
    obtain ⟨j, isResult, null, first, rfl⟩ := requireRoom_eq_error full covers
    exact .nullResult target typed covers reads isResult null first

inductive Outcome (r : Registry) (errors : Thread → ErrorSlot) (t : Thread) (h : Handle)
    (interface name : Option (List UInt8)) (a : PointerArray) :
    Bool × PointerArray × Embedding → Prop
  | success {i : Option String} {n : String} {s : Signature} {args results : List Value}
    {a' : PointerArray} (accepted : Accepted r h interface name a i n s args)
    (answers : (r.call h i n args).1 = .ok results) (count : results.length = s.results.length)
    (delivered : a.Delivered s results a') :
    Outcome r errors t h interface name a (true, a', ⟨.ok (r.call h i n args).2, errors⟩)
  | failure {e : Failure} {r' : Registry} (first : FirstFailure r h interface name a e r') :
    Outcome r errors t h interface name a (false, a, Embedding.fail ⟨.ok r', errors⟩ t e)

theorem outcome_invoke (t : Thread) :
    Outcome r errors t h interface name a
      (Embedding.invoke ⟨.ok r, errors⟩ t h interface name a) := by
  unfold Embedding.invoke
  cases found : Embedding.readTarget ⟨.ok r, errors⟩ h interface name with
  | error e => exact .failure (firstFailure_of_readTarget found)
  | ok result =>
    obtain ⟨i, n, r'⟩ := result
    obtain ⟨target, stands⟩ := Embedding.readTarget_eq_ok.mp found
    obtain rfl : r = r' := Except.ok.inj stands
    simp only
    cases live : r.get? h with
    | none =>
      rw [Registry.use_of_dead live]
      exact .failure (.signature target (Registry.signature_of_dead live))
    | some x =>
      rw [Registry.use_of_live live]
      -- The checks decide up to the guest, and the registry's call from there on.
      cases prepared : x.signature i n >>= fun s => a.arguments s >>= fun _ => a.requireRoom s with
      | error e =>
        rw [callOn_of_unprepared prepared, Registry.set_of_get? live]
        exact .failure (firstFailure_of_unprepared target live prepared)
      | ok _ =>
        obtain ⟨s, typed, prepared⟩ := bind_eq_ok.mp prepared
        obtain ⟨args, reads, room⟩ := bind_eq_ok.mp prepared
        have accepted : Accepted r h interface name a i n s args :=
          ⟨target, (Registry.signature_of_live live).trans typed, (arguments_eq_ok.mp reads).1,
            (arguments_eq_ok.mp reads).2, (requireRoom_eq_ok.mp room).2⟩
        have call : r.call h i n args = ((x.call i n args).1, r.set h (x.call i n args).2) :=
          Registry.use_of_live live
        cases answers : (x.call i n args).1 with
        | error e =>
          rw [callOn_of_error typed reads room answers]
          have first := FirstFailure.call accepted (by rw [call, answers])
          rw [call] at first
          exact .failure first
        | ok results =>
          have count : results.length = s.results.length := by
            rw [← Instance.map_kind_of_call typed answers, List.length_map]
          obtain ⟨a', delivers, delivered⟩ := deliver_eq_ok accepted.covers accepted.room count
          rw [callOn_of_ok typed reads room answers, delivers]
          have success (errors : Thread → ErrorSlot) (t : Thread) :
              Outcome r errors t h interface name a
                (true, a', ⟨.ok (r.call h i n args).2, errors⟩) :=
            .success accepted (by rw [call, answers]) count delivered
          rw [call] at success
          exact success errors t

/-! ## The statement -/

theorem Target.unique {i' : Option String} {n' : String} (target : Target h interface name i n)
    (target' : Target h interface name i' n') : i = i' ∧ n = n' := by
  obtain ⟨bytes, given, names⟩ := target.name
  obtain ⟨bytes', given', names'⟩ := target'.name
  obtain rfl := Option.some.inj (given.symm.trans given')
  have reads : interface.mapM (Embedding.readString "instance") = .ok i :=
    mapM_readString_eq_ok.mpr target.interface
  have reads' : interface.mapM (Embedding.readString "instance") = .ok i' :=
    mapM_readString_eq_ok.mpr target'.interface
  exact ⟨Except.ok.inj (reads.symm.trans reads'), names.unique names'⟩

theorem FirstFailure.not_ok {r' : Registry} (first : FirstFailure r h interface name a e r')
    (accepted : Accepted r h interface name a i n s args) :
    (r.call h i n args).1 ≠ .ok results := by
  have target := accepted.target
  intro answers
  -- Each failure contradicts a part of what is in order: a pointer, the signature or an array.
  cases first with
  | nullHandle null => exact target.handle null
  | interface _ given faulty =>
    obtain ⟨-, reads, -⟩ := target
    subst given
    cases reads with
    | some names =>
      rw [(Utf8.decode_eq_ok_iff _ _).mpr names] at faulty
      cases faulty
  | nullName _ _ null =>
    obtain ⟨bytes, given, -⟩ := target.name
    cases null.symm.trans given
  | name _ _ given faulty =>
    obtain ⟨bytes, given', names⟩ := target.name
    obtain rfl := Option.some.inj (given.symm.trans given')
    rw [(Utf8.decode_eq_ok_iff _ _).mpr names] at faulty
    cases faulty
  | signature target' untyped =>
    obtain ⟨rfl, rfl⟩ := target.unique target'
    cases accepted.typed.symm.trans untyped
  | nullArray target' typed absent =>
    obtain ⟨rfl, rfl⟩ := target.unique target'
    obtain rfl := Except.ok.inj (accepted.typed.symm.trans typed)
    exact absent accepted.covers
  | nullParameter target' typed _ isKind null =>
    obtain ⟨rfl, rfl⟩ := target.unique target'
    obtain rfl := Except.ok.inj (accepted.typed.symm.trans typed)
    obtain ⟨c, v, points, -⟩ := accepted.reads.2 _ _ isKind
    cases null.symm.trans points
  | nullResult target' typed _ _ isResult null =>
    obtain ⟨rfl, rfl⟩ := target.unique target'
    obtain rfl := Except.ok.inj (accepted.typed.symm.trans typed)
    exact accepted.room _ isResult null
  | call accepted' fails =>
    obtain ⟨rfl, rfl⟩ := target.unique accepted'.target
    obtain rfl := Except.ok.inj (accepted.typed.symm.trans accepted'.typed)
    have reads := arguments_eq_ok.mpr ⟨accepted.covers, accepted.reads⟩
    have reads' := arguments_eq_ok.mpr ⟨accepted'.covers, accepted'.reads⟩
    obtain rfl := Except.ok.inj (reads.symm.trans reads')
    cases answers.symm.trans fails

theorem invoke_refines (r : Registry) (errors : Thread → ErrorSlot) (t : Thread) (h : Handle)
    (interface name : Option (List UInt8)) (a : PointerArray) :
    ((Embedding.invoke ⟨.ok r, errors⟩ t h interface name a).1 = true ↔
      ∃ i n s args results, Accepted r h interface name a i n s args ∧
        (r.call h i n args).1 = .ok results) ∧
      Outcome r errors t h interface name a
        (Embedding.invoke ⟨.ok r, errors⟩ t h interface name a) := by
  have outcome : Outcome r errors t h interface name a
      (Embedding.invoke ⟨.ok r, errors⟩ t h interface name a) := outcome_invoke t
  refine ⟨?_, outcome⟩
  generalize Embedding.invoke ⟨.ok r, errors⟩ t h interface name a = result at outcome
  cases outcome with
  | success accepted answers => exact ⟨fun _ => ⟨_, _, _, _, _, accepted, answers⟩, fun _ => rfl⟩
  | failure first =>
    exact ⟨nofun, fun ⟨_, _, _, _, _, accepted, answers⟩ => absurd answers (first.not_ok accepted)⟩

end ModuleHost.Boundary
