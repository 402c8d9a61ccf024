import ModuleHost.Proofs.Registry.Backtraces

namespace ModuleHost

/-- A report that a start function trapped, or that it ran out of fuel. -/
inductive Failure.BlamesStart : Failure → Prop
  | trap (text : String) : BlamesStart (.instantiation ("start function trapped: " ++ text))
  | fuel : BlamesStart (.instantiation "fuel exhausted while running the start function")

theorem Failure.Untrapped.not_blamesStart {e : Failure} (other : e.Untrapped) :
    ¬ e.BlamesStart := by
  obtain ⟨text, rfl, head⟩ := other
  intro blames
  cases blames with
  | trap text => simp [String.toList_append] at head
  | fuel => exact head (by decide)

namespace GuestFault

variable {layers : List String} {t : Wasm.Trap} {text : String}

theorem toCreationFailure_eq_fuel :
    (⟨layers, .trap t⟩ : GuestFault).toCreationFailure =
      .instantiation "fuel exhausted while running the start function" ↔ t = .outOfFuel := by
  constructor
  · intro told
    by_contra other
    exact not_saysExhausted_of_trap other (.inr told)
  · rintro rfl
    rfl

theorem toCreationFailure_eq_trapped :
    (⟨layers, .trap t⟩ : GuestFault).toCreationFailure =
      .instantiation ("start function trapped: " ++ text) ↔ t ≠ .outOfFuel ∧ text = t.message := by
  by_cases fuel : t = .outOfFuel
  · have told : (⟨layers, .trap t⟩ : GuestFault).toCreationFailure = _ :=
      toCreationFailure_eq_fuel.mpr fuel
    rw [told]
    refine iff_of_false (fun same => ?_) fun other => other.1 fuel
    have letters := congrArg (fun text => text.toList.head?) (Failure.instantiation.inj same)
    simp [String.toList_append] at letters
  · rw [toCreationFailure_of_trap fuel]
    constructor
    · intro same
      have letters := congrArg String.toList (Failure.instantiation.inj same)
      rw [String.toList_append, String.toList_append] at letters
      exact ⟨fuel, (String.toList_inj.mp (List.append_cancel_left letters)).symm⟩
    · rintro ⟨-, rfl⟩
      rfl

end GuestFault

namespace Registry

open Wasm (Trap)

variable {r : Registry} {source : Source} {fuel : Option UInt64} {e : Failure} {t : Trap}
  {reason : Wasm.Stop}

def SegmentStops (r : Registry) (source : Source) (t : Trap) : Prop :=
  ∃ m, source.load r.engine = .ok m ∧ Instance.SegmentFails r.engine r.limits r.pool m t

theorem startStops_iff :
    r.StartStops source fuel reason ↔ ∃ m, source.load r.engine = .ok m ∧
      Instance.StartFails r.engine r.limits r.pool m fuel reason := by
  constructor
  · rintro ⟨m, ready, f, store, loads, stands, starts, stops⟩
    exact ⟨m, loads, ready, f, store, stands, starts, stops⟩
  · rintro ⟨m, loads, ready, f, store, stands, starts, stops⟩
    exact ⟨m, ready, f, store, loads, stands, starts, stops⟩

theorem create_of_segment (overhangs : r.SegmentStops source t) :
    source.create r fuel = .error (⟨[], .trap t⟩ : GuestFault).toCreationFailure := by
  obtain ⟨m, loads, overhangs⟩ := overhangs
  exact (create_eq_error_of_load loads).mpr (Instance.creationLaws.fails.mpr (.segment overhangs))

theorem SegmentStops.out_of_bounds (overhangs : r.SegmentStops source t) :
    t = .tableOutOfBounds ∨ t = .memoryOutOfBounds := by
  obtain ⟨m, -, _, _, _, -, -, -, overhangs⟩ := overhangs
  cases overhangs with
  | elem => exact .inl rfl
  | data => exact .inr rfl

theorem SegmentStops.not_startStops (overhangs : r.SegmentStops source t) :
    ¬ r.StartStops source fuel reason := by
  rintro ⟨m, ready, f, store, loads, stands, -, -⟩
  obtain ⟨m', loads', calls, pool, memories, links, taken, made, overhangs⟩ := overhangs
  cases loads.symm.trans loads'
  obtain ⟨memories', -, -, made', copied⟩ := Instance.getReady_eq_ok.mp stands
  cases made.symm.trans made'
  cases copied.symm.trans (Instance.copySegments_eq_error.mpr overhangs)

theorem stops_of_blamesStart (fails : source.create r fuel = .error e) (blames : e.BlamesStart) :
    ∃ t layers, (r.StartStops source fuel (.trap t) ∨ r.SegmentStops source t) ∧
      e = (⟨layers, .trap t⟩ : GuestFault).toCreationFailure := by
  -- No other stage of a creation has a report with the first letter of a trap's.
  rcases create_eq_error.mp fails with broken | ⟨m, loads, unmade⟩
  · obtain ⟨text, rfl⟩ := invalidModule_of_load broken
    cases blames
  · rcases Instance.untrapped_or_of_create unmade with other | ⟨t, layers, traps, rfl⟩
    · exact absurd blames other.not_blamesStart
    · refine ⟨t, layers, ?_, rfl⟩
      rcases traps with overhangs | stops
      · exact .inr ⟨m, loads, overhangs⟩
      · exact .inl (startStops_iff.mpr ⟨m, loads, stops⟩)

def BlamesRightly (r : Registry) : Prop :=
  ∀ source fuel e, source.create r fuel = .error e → e.BlamesStart →
    ∃ t, r.StartStops source fuel (.trap t)

/-- What creations blame on start functions: all traps of theirs, and those of segments. -/
structure StartBlamed (r : Registry) : Prop where
  fuel : ∀ source fuel, source.create r fuel =
      .error (.instantiation "fuel exhausted while running the start function") ↔
    r.StartStops source fuel (.trap .outOfFuel)
  trap : ∀ source fuel text,
    source.create r fuel = .error (.instantiation ("start function trapped: " ++ text)) ↔
      ∃ t, t ≠ .outOfFuel ∧ text = t.message ∧
        (r.StartStops source fuel (.trap t) ∨ r.SegmentStops source t)
  segment : ∀ source t, r.SegmentStops source t →
    (t = .tableOutOfBounds ∨ t = .memoryOutOfBounds) ∧
      ∀ fuel reason, ¬ r.StartStops source fuel reason
  rightly : ∀ source fuel e, source.create r fuel = .error e → e.BlamesStart →
    ((∃ t, r.StartStops source fuel (.trap t)) ↔ ∀ t, ¬ r.SegmentStops source t)

theorem start_blamed (r : Registry) : r.StartBlamed where
  fuel source fuel := by
    constructor
    · intro fails
      obtain ⟨t, layers, stops, told⟩ := stops_of_blamesStart fails .fuel
      obtain rfl := GuestFault.toCreationFailure_eq_fuel.mp told.symm
      rcases stops with stops | overhangs
      · exact stops
      · rcases overhangs.out_of_bounds with other | other <;> cases other
    · exact create_of_stops
  trap source fuel text := by
    constructor
    · intro fails
      obtain ⟨t, layers, stops, told⟩ := stops_of_blamesStart fails (.trap text)
      obtain ⟨other, same⟩ := GuestFault.toCreationFailure_eq_trapped.mp told.symm
      exact ⟨t, other, same, stops⟩
    · rintro ⟨t, other, same, stops | overhangs⟩
      · rw [create_of_stops stops]
        exact congrArg _ (GuestFault.toCreationFailure_eq_trapped.mpr ⟨other, same⟩)
      · rw [create_of_segment overhangs]
        exact congrArg _ (GuestFault.toCreationFailure_eq_trapped.mpr ⟨other, same⟩)
  segment source t overhangs :=
    ⟨overhangs.out_of_bounds, fun fuel reason => overhangs.not_startStops⟩
  rightly source fuel e fails blames := by
    constructor
    · rintro ⟨t, stops⟩ t' overhangs
      exact overhangs.not_startStops stops
    · intro fit
      obtain ⟨t, -, stops | overhangs, -⟩ := stops_of_blamesStart fails blames
      · exact ⟨t, stops⟩
      · exact absurd overhangs (fit t)

def overhangingBytes : List UInt8 :=
  [0, 97, 115, 109, 1, 0, 0, 0, 5, 3, 1, 0, 0, 11, 7, 1, 0, 65, 0, 11, 1, 120]

def overhanging : GuestModule where
  module := {
    types := #[], imports := [], funcs := #[], tables := #[], memories := #[⟨0, none⟩]
    globals := #[], exports := [], start := none, elems := #[], dataCount := none
    datas := #[⟨[120], .active 0 [.const .i32 0]⟩] }
  fingerprint := ModuleHost.fingerprint overhangingBytes

theorem ofBytes_overhanging {engine : Engine} (separate : engine.settings.pooling = false) :
    GuestModule.ofBytes engine overhangingBytes = .ok overhanging := by
  refine GuestModule.ofBytes_of_check (by decide) rfl rfl (by decide +kernel) ?_
  rw [GuestModule.checkSlot, separate]
  rfl

/-- It has no start function, and its creation is blamed on one. -/
theorem blamed_without_start : ∃ r₀, create {} = .ok r₀ ∧
    GuestModule.ofBytes r₀.engine overhangingBytes = .ok overhanging ∧
    overhanging.module.start = none ∧
    r₀.createFrom overhanging none = .error (.instantiation
      "start function trapped: wasm trap: out of bounds memory access") ∧
    ¬ r₀.BlamesRightly := by
  refine ⟨_, rfl, ofBytes_overhanging rfl, rfl, rfl, fun rightly => ?_⟩
  obtain ⟨t, m, ready, f, store, loads, -, starts, -⟩ :=
    rightly (.ofModule overhanging) none _ rfl (.trap "wasm trap: out of bounds memory access")
  cases loads
  cases starts

end Registry

end ModuleHost
