import ModuleHost.Proofs.Boundary.ErrorChannel
import ModuleHost.Proofs.Boundary.Invocation

namespace ModuleHost.Boundary

namespace Embedding

variable {p : Embedding} {h : Handle} {interface name : Option (List UInt8)} {i : Option String}
  {n : String} {e e' : Failure}

def unusable (reason : Failure) : Failure :=
  .invalidConfig reason.message

section NoRegistry

variable (shut : p.registry = .error e)

include shut

theorem theRegistry_of_error : p.theRegistry = .error (unusable e) := by
  rw [theRegistry, shut]
  rfl

theorem createInstance_of_error (t : Thread) (wasm : Option (List UInt8)) (fuel : UInt64) :
    p.createInstance t wasm fuel = (0, p.fail t (unusable e)) := by
  simp only [createInstance, create, theRegistry_of_error shut, bind, Except.bind]

theorem destroyInstance_of_error (t : Thread) (handle : h ≠ 0) :
    p.destroyInstance t h = p.fail t (unusable e) := by
  simp only [destroyInstance, if_neg handle, theRegistry_of_error shut, bind, Except.bind]

theorem readTarget_of_error (target : Target h interface name i n) :
    p.readTarget h interface name = .error (unusable e) := by
  rw [readTarget_of_target target, theRegistry_of_error shut]
  rfl

theorem invoke_of_error (t : Thread) (h : Handle) (interface : Option (List UInt8))
    (name : Option (List UInt8)) (slots : PointerArray) :
    ∃ e', p.invoke t h interface name slots = (false, slots, p.fail t e') := by
  rcases target_or_rejection h interface name with ⟨i, n, target⟩ | ⟨e', rejected⟩
  · exact ⟨_, by rw [invoke, readTarget_of_error shut target]⟩
  · exact ⟨e', by rw [invoke, readTarget_of_rejection rejected]⟩

theorem registry_step (t : Thread) (c : Call) : (p.step t c).registry = .error e := by
  cases c with
  | create wasm fuel =>
    rw [step, createInstance_of_error shut]
    exact shut
  | destroy h =>
    by_cases null : h = 0
    · rw [step, destroyInstance, if_pos null]
      exact shut
    · rw [step, destroyInstance_of_error shut t null]
      exact shut
  | invoke h interface name slots =>
    obtain ⟨e', fails⟩ := invoke_of_error shut t h interface name slots
    rw [step, fails]
    exact shut
  | length | take => exact shut

theorem registry_after (calls : List (Thread × Call)) : (p.after calls).registry = .error e :=
  @Run.invariant _ _ _ record p (fun _ p => p.registry = .error e) shut
    (fun _ _ call shut => registry_step shut call.1 call.2) calls

end NoRegistry

/-- Why the settings that a file holds make no registry. -/
inductive Unusable [Runtime] (read : Files.Reader) (path : String) : Failure → Prop
  | unreadable {fault : Files.Fault} (fails : Files.Reader.text read path = .error fault) :
    Unusable read path (.settings ("failed to read '" ++ path ++ "': " ++ fault.message))
  | invalid {text : String} {e : Failure} (reads : Files.Reader.text read path = .ok text)
    (fails : Settings.ofToml text = .error e) : Unusable read path e
  | noEngine {text : String} {s : Settings} {e : Failure}
    (reads : Files.Reader.text read path = .ok text) (parses : Settings.ofToml text = .ok s)
    (fails : Registry.create s = .error e) : Unusable read path e

theorem registry_start_eq_error [Runtime] {read : Files.Reader} {path : String}
    (given : path ≠ "") :
    (start read (some path)).registry = .error e ↔ Unusable read path e := by
  have named : path.isEmpty = false := by rwa [String.isEmpty_eq_false_iff]
  simp only [start, Settings.ofEnvironment, named, Settings.ofFile, bind_eq_error]
  cases reads : Files.Reader.text read path with
  | error fault =>
    constructor
    · rintro (fails | ⟨_, succeeds, -⟩)
      · cases fails
        exact .unreadable reads
      · cases succeeds
    · rintro (⟨fails⟩ | ⟨reads', -⟩ | ⟨reads', -, -⟩)
      · cases reads.symm.trans fails
        exact .inl rfl
      · cases reads.symm.trans reads'
      · cases reads.symm.trans reads'
  | ok text =>
    constructor
    · rintro (fails | ⟨s, parses, fails⟩)
      · exact .invalid reads fails
      · exact .noEngine reads parses fails
    · rintro (⟨fails⟩ | ⟨reads', fails⟩ | ⟨reads', parses, fails⟩)
      · cases reads.symm.trans fails
      · cases reads.symm.trans reads'
        exact .inl fails
      · cases reads.symm.trans reads'
        exact .inr ⟨_, parses, fails⟩

/-- What a call fails for when there is no registry for some reason, if it fails. -/
inductive Reports (e : Failure) : Call → Option Failure → Prop
  | create {wasm : Option (List UInt8)} {fuel : UInt64} :
    Reports e (.create wasm fuel) (some (unusable e))
  | destroy {h : Handle} (handle : h ≠ 0) : Reports e (.destroy h) (some (unusable e))
  | destroyNull : Reports e (.destroy 0) none
  | reaches {h : Handle} {interface name : Option (List UInt8)} {slots : PointerArray}
    {i : Option String} {n : String} (target : Target h interface name i n) :
    Reports e (.invoke h interface name slots) (some (unusable e))
  | rejected {h : Handle} {interface name : Option (List UInt8)} {slots : PointerArray}
    {e' : Failure} (rejection : Rejection h interface name e') :
    Reports e (.invoke h interface name slots) (some e')
  | length : Reports e .length none
  | take {buffer : Option (List UInt8)} : Reports e (.take buffer) none

theorem reports_failure (shut : p.registry = .error e) (c : Call) :
    Reports e c (p.failure c) := by
  have absent := theRegistry_of_error shut
  cases c with
  | create wasm fuel =>
    have fails : p.failure (.create wasm fuel) = some (unusable e) := by
      simp only [failure, create, absent, bind, Except.bind, failureOf]
    exact fails ▸ .create
  | destroy h =>
    by_cases null : h = 0
    · subst null
      exact .destroyNull
    · have fails : p.failure (.destroy h) = some (unusable e) := by
        simp only [failure, if_neg null, absent, bind, Except.bind, failureOf]
      exact fails ▸ .destroy null
  | invoke h interface name slots =>
    rcases target_or_rejection h interface name with ⟨i, n, target⟩ | ⟨e', rejection⟩
    · have fails : p.failure (.invoke h interface name slots) = some (unusable e) := by
        simp only [failure, readTarget_of_error shut target, bind, Except.bind, failureOf]
      exact fails ▸ .reaches target
    · have fails : p.failure (.invoke h interface name slots) = some e' := by
        simp only [failure, readTarget_of_rejection rejection, bind, Except.bind, failureOf]
      exact fails ▸ .rejected rejection
  | length => exact .length
  | take => exact .take

theorem reports_trace (shut : p.registry = .error e) (calls : List (Thread × Call)) :
    ∀ event ∈ p.trace calls, Reports e event.call event.failure := by
  induction calls generalizing p with
  | nil => nofun
  | cons call calls ih =>
    intro event member
    rcases List.mem_cons.mp member with rfl | later
    · exact reports_failure shut call.2
    · exact ih (p := p.step call.1 call.2) (registry_step shut call.1 call.2) event later

/-- What a run of calls has come to in a process without a registry, and what calls do then: what
they answer and what they leave behind. -/
structure Shut (e : Failure) (log : List Event) (p : Embedding) : Prop where
  noInstances : p.registry = .error e
  reports : ∀ event ∈ log, Reports e event.call event.failure
  pending : ∀ t m, p.errors t = some m ↔ ∃ e, Pending log t e ∧ ErrorSlot.ofFailure e = some m
  create : ∀ t wasm fuel, p.createInstance t wasm fuel = (0, p.fail t (unusable e))
  destroy : ∀ t h, h ≠ 0 → p.destroyInstance t h = p.fail t (unusable e)
  destroyNull : ∀ t, p.destroyInstance t 0 = p
  invoke : ∀ t h interface name slots, (p.invoke t h interface name slots).1 = false
  reaches : ∀ t h interface name slots i n, Target h interface name i n →
    p.invoke t h interface name slots = (false, slots, p.fail t (unusable e))
  rejected : ∀ t h interface name slots e', Rejection h interface name e' →
    p.invoke t h interface name slots = (false, slots, p.fail t e')
  decided : ∀ h interface name,
    (∃ i n, Target h interface name i n) ∨ ∃ e', Rejection h interface name e'
  length : ∀ (q : Embedding) t, q.errors t = p.errors t → q.pendingLength t = p.pendingLength t
  take : ∀ (q : Embedding) t buffer, q.errors t = p.errors t →
    (q.takeError t buffer).1 = (p.takeError t buffer).1 ∧
      (q.takeError t buffer).2.1 = (p.takeError t buffer).2.1 ∧
      ((q.takeError t buffer).2.2).errors t = ((p.takeError t buffer).2.2).errors t

theorem takeError_congr {q : Embedding} {t : Thread} (same : q.errors t = p.errors t)
    (buffer : Option (List UInt8)) :
    (q.takeError t buffer).1 = (p.takeError t buffer).1 ∧
      (q.takeError t buffer).2.1 = (p.takeError t buffer).2.1 ∧
      ((q.takeError t buffer).2.2).errors t = ((p.takeError t buffer).2.2).errors t := by
  simp only [takeError, drainError, same, errors_setError, if_true, and_self]

theorem shut_of_error {log : List Event} (shut : p.registry = .error e)
    (reports : ∀ event ∈ log, Reports e event.call event.failure)
    (pending : ∀ t m, p.errors t = some m ↔
      ∃ e, Pending log t e ∧ ErrorSlot.ofFailure e = some m) : Shut e log p where
  noInstances := shut
  reports := reports
  pending := pending
  create := createInstance_of_error shut
  destroy t _ := destroyInstance_of_error shut t
  destroyNull _ := if_pos rfl
  invoke t h interface name slots := by
    obtain ⟨e', fails⟩ := invoke_of_error shut t h interface name slots
    rw [fails]
  reaches t h interface name slots i n target := by
    rw [invoke, readTarget_of_error shut target]
  rejected t h interface name slots e' rejected := by
    rw [invoke, readTarget_of_rejection rejected]
  decided := target_or_rejection
  length q t same := by rw [pendingLength, pendingLength, same]
  take _ _ buffer same := takeError_congr same buffer

theorem shut_for_good [Runtime] {read : Files.Reader} {path : String} {e : Failure}
    (given : path ≠ "") (cause : Unusable read path e)
    (calls : List (Thread × Call)) :
    Shut e ((start read (some path)).trace calls) ((start read (some path)).after calls) := by
  have shut := (registry_start_eq_error given).mpr cause
  exact shut_of_error (registry_after shut calls) (reports_trace shut calls)
    (pending_run (start read (some path)) rfl calls)

theorem shut_for_good_no_stack :
    let read : Files.Reader := fun _ => .ok (Utf8.encode "engine.max_wasm_stack_kb = 0")
    let e : Failure := .invalidConfig
      "Failed to create Wasmtime engine: max_wasm_stack size cannot be zero"
    let calls : List (Thread × Call) := [(0, .destroy 7), (1, .create none 0), (0, .take (some []))]
    let p := (start read (some "host.toml")).after calls
    "host.toml" ≠ "" ∧ Unusable read "host.toml" e ∧
      Shut e ((start read (some "host.toml")).trace calls) p ∧
      p.errors 0 = none ∧ p.errors 1 = .ofFailure (unusable e) := by
  intro read e calls p
  have cause : Unusable read "host.toml" e :=
    @Unusable.noEngine _ _ _ "engine.max_wasm_stack_kb = 0" { engine := { stackKb := 0 } } _
      (by decide +kernel) (by decide +kernel) rfl
  have absent := (registry_start_eq_error (by decide)).mpr cause
  have slots (p₀ : Embedding) (absent : p₀.registry = .error e) :
      (p₀.after calls).errors 0 = none ∧
        (p₀.after calls).errors 1 = .ofFailure (unusable e) := by
    have first := destroyInstance_of_error (h := 7) absent 0 (by decide)
    have second := createInstance_of_error (p := p₀.fail 0 (unusable e)) absent 1 none 0
    have after : p₀.after calls =
        ((p₀.fail 0 (unusable e)).fail 1 (unusable e)).setError 0 none := by
      show ((((p₀.destroyInstance 0 7).createInstance 1 none 0).2).takeError 0 (some [])).2.2 = _
      rw [first, second, takeError_some]
    rw [after]
    exact ⟨rfl, rfl⟩
  exact ⟨by decide, cause, shut_for_good (by decide) cause calls, slots _ absent⟩

end Embedding

end ModuleHost.Boundary
