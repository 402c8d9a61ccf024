import ModuleHost.Proofs.GuestFault
import ModuleHost.Proofs.GuestModule
import ModuleHost.Proofs.Registry.CallFailure
import ModuleHost.Proofs.Registry.Creation

namespace ModuleHost.Registry

open GuestFault (backtrace inGuest)

variable {r : Registry} {h : Handle} {interface : Option String} {name : String}
  {args : List Value} {i : Instance} {f : Nat} {reason : Wasm.Stop} {source : Source}
  {fuel : Option UInt64}

/-- A call of a live instance enters a function, which stops. -/
structure CallStops (r : Registry) (h : Handle) (interface : Option String) (name : String)
    (args : List Value) (i : Instance) (f : Nat) (reason : Wasm.Stop) : Prop where
  live : r.get? h = some i
  enters : ∃ s, i.resolve (qualify interface name) = .ok (f, s) ∧ args.map Value.kind = s.params
  stops : ∃ store, i.enter f (args.map Value.bits) = .stop reason store

theorem call_of_stops (stops : r.CallStops h interface name args i f reason) :
    (r.call h interface name args).1 = .error (i.faultOf f reason).toCallFailure := by
  obtain ⟨live, ⟨s, resolves, accepts⟩, store, stops⟩ := stops
  rw [call_of_live live]
  exact congrArg Prod.fst (Instance.callWith_of_stop resolves accepts stops)

theorem callStops_of_group {e : Failure} (fails : (r.call h interface name args).1 = .error e)
    (group : e.group = some .trap) :
    ∃ i f reason, r.CallStops h interface name args i f reason := by
  rcases refused_or_stopped fails with refused | stopped
  · have groups := refused.group.symm.trans group
    cases groups
  · obtain ⟨i, f, s, reason, store, live, resolves, accepts, stops, -, -⟩ := stopped.entered
    exact ⟨i, f, reason, live, ⟨s, resolves, accepts⟩, store, stops⟩

theorem tells_backtrace_call (stops : r.CallStops h interface name args i f reason) :
    (i.faultOf f reason).toCallFailure.Tells backtrace ↔
      i.isHostFunction f = false ∧ ∀ t, reason ≠ .trap t := by
  obtain ⟨-, -, store, stops⟩ := stops
  unfold Instance.enter at stops
  unfold Instance.faultOf
  cases host : i.isHostFunction f with
  | true =>
    rw [if_pos host] at stops
    cases stops
    refine iff_of_false (fun tells => ?_) nofun
    exact absurd tells.bytes (by decide +kernel)
  | false =>
    rw [if_neg Bool.false_ne_true, (GuestFault.tells_backtrace_inGuest reason).1]
    exact ⟨fun other => ⟨rfl, other⟩, And.right⟩

def StartStops (r : Registry) (source : Source) (fuel : Option UInt64) (reason : Wasm.Stop) :
    Prop :=
  ∃ m ready f store, source.load r.engine = .ok m ∧
    Instance.getReady r.engine.settings r.limits r.pool m.module = .ok ready ∧
    m.module.start = some f ∧
    (Instance.linked r.engine r.limits m.module fuel ready.calls).call f [] ready.store =
      .stop reason store

theorem create_of_stops (stops : r.StartStops source fuel reason) :
    source.create r fuel = .error (inGuest reason).toCreationFailure := by
  obtain ⟨m, ready, f, store, loads, stands, starts, stops⟩ := stops
  have fails : Instance.create r.engine r.limits r.pool m fuel =
      .error (inGuest reason).toCreationFailure := by
    refine Instance.create_eq_error.mpr (.inr ⟨ready, inGuest reason, stands, ?_, rfl⟩)
    have starts' : (Instance.linked r.engine r.limits m.module fuel
        ready.calls).module.start = some f := starts
    simp only [Instance.runStart, starts', stops]
  exact (create_eq_error_of_load loads).mpr fails

/-- What is reported when guest code stops, and whether the backtrace is in it. -/
structure StopsTold (r : Registry) : Prop where
  faults : ∀ e : GuestFault, e.Told
  stopped : ∀ h interface name args e, (r.call h interface name args).1 = .error e →
    e.group = some .trap → ∃ i f reason, r.CallStops h interface name args i f reason
  calls : ∀ h interface name args i f reason, r.CallStops h interface name args i f reason →
    (r.call h interface name args).1 = .error (i.faultOf f reason).toCallFailure ∧
      ((i.faultOf f reason).toCallFailure.Tells backtrace ↔
        i.isHostFunction f = false ∧ ∀ t, reason ≠ .trap t)
  creations : ∀ source fuel reason, r.StartStops source fuel reason →
    source.create r fuel = .error (inGuest reason).toCreationFailure ∧
      ((inGuest reason).toCreationFailure.Tells backtrace ↔ ∀ t, reason ≠ .trap t)

theorem stops_told (r : Registry) : r.StopsTold where
  faults := GuestFault.told
  stopped _ _ _ _ _ := callStops_of_group
  calls _ _ _ _ _ _ _ stops := ⟨call_of_stops stops, tells_backtrace_call stops⟩
  creations _ _ _ stops := ⟨create_of_stops stops, (GuestFault.tells_backtrace_inGuest _).2⟩

def exitingBytes : List UInt8 :=
  [0, 97, 115, 109, 1, 0, 0, 0, 1, 5, 1, 96, 1, 127, 0, 2, 36, 1, 22, 119, 97, 115, 105, 95, 115,
    110, 97, 112, 115, 104, 111, 116, 95, 112, 114, 101, 118, 105, 101, 119, 49, 9, 112, 114, 111,
    99, 95, 101, 120, 105, 116, 0, 0, 3, 2, 1, 0, 5, 3, 1, 0, 1, 7, 17, 2, 6, 109, 101, 109, 111,
    114, 121, 2, 0, 4, 101, 120, 105, 116, 0, 1, 10, 8, 1, 6, 0, 32, 0, 16, 0, 11]

def exiting : GuestModule where
  module := {
    types := #[⟨[.i32], []⟩]
    imports := [⟨"wasi_snapshot_preview1", "proc_exit", .func 0⟩]
    funcs := #[⟨0, [], [.op (.var (.localGet 0)), .call 0]⟩]
    tables := #[], memories := #[⟨1, none⟩]
    globals := #[], exports := [⟨"memory", .memory 0⟩, ⟨"exit", .func 1⟩], start := none
    elems := #[], dataCount := none, datas := #[] }
  fingerprint := ModuleHost.fingerprint exitingBytes

theorem ofBytes_exiting {engine : Engine} (separate : engine.settings.pooling = false) :
    GuestModule.ofBytes engine exitingBytes = .ok exiting := by
  refine GuestModule.ofBytes_of_check (by decide) rfl rfl (by decide +kernel) ?_
  rw [GuestModule.checkSlot, separate]
  rfl

set_option maxRecDepth 4000 in
theorem told_exiting : ∃ r₀ r i, create { engine := { wasi := true } } = .ok r₀ ∧
    GuestModule.ofBytes r₀.engine exitingBytes = .ok exiting ∧
    r₀.createFrom exiting none = .ok (1, r) ∧
    r.CallStops 1 none "exit" [.i32 3] i 1 (.host "Exited with i32 exit status 3") ∧
    (r.call 1 none "exit" [.i32 3]).1 = .error (.trap backtrace none) ∧
    (Failure.trap backtrace none).Tells backtrace ∧
    ¬ (Failure.trap backtrace none).Tells "Exited with i32 exit status 3" := by
  refine ⟨_, _, _, rfl, ofBytes_exiting rfl, rfl, ⟨rfl, ⟨_, rfl, rfl⟩, _, rfl⟩, rfl,
    Failure.tells_of_message rfl, fun tells => ?_⟩
  exact absurd tells.bytes (by decide +kernel)

end ModuleHost.Registry
