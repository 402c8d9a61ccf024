import ModuleHost.Proofs.Boundary.ErrorChannel
import ModuleHost.Proofs.Boundary.Invocation
import ModuleHost.Proofs.Registry.Creation

namespace ModuleHost

namespace Registry

variable {r : Registry} {bytes : List UInt8} {fuel : Option UInt64} {interface : Option String}
  {name : String} {args results : List Value} {e : Failure}

def firstCall (r : Registry) (bytes : List UInt8) (fuel : Option UInt64)
    (interface : Option String) (name : String) (args : List Value) :
    Except Failure (List Value) := do
  let (h, r) ← r.createOf bytes fuel
  (r.call h interface name args).1

theorem firstCall_eq_ok :
    r.firstCall bytes fuel interface name args = .ok results ↔
      ∃ h r', r.createOf bytes fuel = .ok (h, r') ∧
        (r'.call h interface name args).1 = .ok results := by
  simp only [firstCall, bind_eq_ok, Prod.exists]

theorem firstCall_eq_error :
    r.firstCall bytes fuel interface name args = .error e ↔
      r.createOf bytes fuel = .error e ∨
        ∃ h r', r.createOf bytes fuel = .ok (h, r') ∧
          (r'.call h interface name args).1 = .error e := by
  simp only [firstCall, bind_eq_error, Prod.exists]

end Registry

namespace Boundary

def cString (text : String) : List UInt8 :=
  Utf8.encode text ++ [0]

theorem names_cString {text : String} (free : '\x00' ∉ text.toList) :
    Names (cString text) text := by
  have before : ∀ b ∈ Utf8.encode text, (decide (b ≠ 0)) = true := by
    intro b written
    apply decide_eq_true
    intro zero
    exact Utf8.zero_notMem_encode free (zero ▸ written)
  rw [Names, cString, List.takeWhile_append_of_pos before, List.takeWhile_cons_of_neg (by simp),
    List.append_nil]

theorem target_cString {h : Handle} {interface : Option String} {name : String} (handle : h ≠ 0)
    (free : ∀ text ∈ interface, '\x00' ∉ text.toList) (named : '\x00' ∉ name.toList) :
    Target h (interface.map cString) (some (cString name)) interface name := by
  refine ⟨handle, ?_, _, rfl, names_cString named⟩
  cases interface with
  | none => exact .none
  | some text => exact .some (names_cString (free text rfl))

namespace Embedding

theorem fuelOf_getD {fuel : Option UInt64} (positive : fuel ≠ some 0) :
    fuelOf (fuel.getD 0) = fuel := by
  cases fuel with
  | none => rfl
  | some n => exact if_neg fun zero => positive (congrArg some zero)

/-- If the export has a signature, the slots hold arguments of the kinds of its parameters and
there is room for its results. -/
def Prepared (signature : Except Failure Signature) (a : PointerArray) (args : List Value) : Prop :=
  ∀ s, signature = .ok s → args.map Value.kind = s.params ∧ a.Holds 0 args ∧ a.HasRoom s

section

variable {i : Instance} {interface : Option String} {name : String} {a : PointerArray}
  {args results : List Value} {e : Failure}
  (prepared : Prepared (i.signature interface name) a args)

include prepared

theorem callOn_of_prepared_ok (answers : (i.call interface name args).1 = .ok results) :
    ∃ s a', i.signature interface name = .ok s ∧ results.map Value.kind = s.results ∧
      (callOn i interface name a).1 = .ok a' ∧ a'.Holds s.params.length results := by
  cases typed : i.signature interface name with
  | error e =>
    rw [Instance.call_of_untyped typed] at answers
    cases answers
  | ok s =>
    obtain ⟨kinds, holds, room⟩ := prepared s typed
    have reads := holds.reads kinds
    have covers := PointerArray.covers_of_room reads room
    have returned := Instance.map_kind_of_call typed answers
    have count : results.length = s.results.length := by
      rw [← returned, List.length_map]
    obtain ⟨a', delivers, delivered⟩ := PointerArray.deliver_eq_ok covers room count
    rw [callOn_of_ok typed (PointerArray.arguments_eq_ok.mpr ⟨covers, reads⟩)
      (PointerArray.requireRoom_eq_ok.mpr ⟨covers, room⟩) answers]
    exact ⟨s, a', rfl, returned, delivers, delivered.holds⟩

theorem callOn_of_prepared_error (fails : (i.call interface name args).1 = .error e) :
    (callOn i interface name a).1 = .error e := by
  cases typed : i.signature interface name with
  | error e' =>
    rw [Instance.call_of_untyped typed] at fails
    cases fails
    rw [callOn_of_unprepared (bind_eq_error.mpr (.inl typed))]
  | ok s =>
    obtain ⟨kinds, holds, room⟩ := prepared s typed
    have reads := holds.reads kinds
    have covers := PointerArray.covers_of_room reads room
    rw [callOn_of_error typed (PointerArray.arguments_eq_ok.mpr ⟨covers, reads⟩)
      (PointerArray.requireRoom_eq_ok.mpr ⟨covers, room⟩) fails]

end

section

variable {r : Registry} {h : Handle} {i : Instance} {interface name : Option (List UInt8)}
  {given : Option String} {named : String} {a a' : PointerArray} {e : Failure}
  (target : Target h interface name given named) (live : r.get? h = some i)
  (errors : Thread → ErrorSlot) (t : Thread)

include target live

theorem invoke_of_callOn_ok (answers : (callOn i given named a).1 = .ok a') :
    ∃ p, invoke ⟨.ok r, errors⟩ t h interface name a = (true, a', p) := by
  rw [invoke, readTarget_eq_ok.mpr ⟨target, rfl⟩]
  simp only [Registry.use_of_live live, answers]
  exact ⟨_, rfl⟩

theorem invoke_of_callOn_error (fails : (callOn i given named a).1 = .error e) :
    ∃ p, invoke ⟨.ok r, errors⟩ t h interface name a = (false, a, p) ∧
      p.errors t = .ofFailure e := by
  rw [invoke, readTarget_eq_ok.mpr ⟨target, rfl⟩]
  simp only [Registry.use_of_live live, fails]
  exact ⟨_, rfl, if_pos rfl⟩

end

end Embedding

/-- What a process does from outside that creates an instance and calls it. -/
structure Session where
  read : Files.Reader
  config : Option String
  thread : Thread
  wasm : List UInt8
  fuel : UInt64
  interface : Option String
  name : String
  slots : PointerArray

namespace Session

variable [Runtime] (x : Session)

def created : Handle × Embedding :=
  (Embedding.start x.read x.config).createInstance x.thread (some x.wasm) x.fuel

def called : Bool × PointerArray × Embedding :=
  x.created.2.invoke x.thread x.created.1 (x.interface.map cString) (some (cString x.name))
    x.slots

def signature : Except Failure Signature := do
  (← x.created.2.theRegistry).signature x.created.1 x.interface x.name

def Passes (args : List Value) : Prop :=
  Embedding.Prepared x.signature x.slots args

def Succeeds : Prop :=
  x.created.1 ≠ 0 ∧ x.called.1 = true

/-- Success, with these results behind the parameters. -/
structure Delivers (results : List Value) : Prop where
  succeeds : x.Succeeds
  held : ∃ s, x.signature = .ok s ∧ results.map Value.kind = s.results ∧
    x.called.2.1.Holds s.params.length results

def pending : ErrorSlot :=
  if x.created.1 = 0 then x.created.2.errors x.thread else x.called.2.2.errors x.thread

def answer (r : Registry) (args : List Value) : Except Failure (List Value) :=
  r.firstCall x.wasm (Embedding.fuelOf x.fuel) x.interface x.name args

variable {x} {r₀ : Registry} {args results : List Value} {e : Failure}

theorem Delivers.unique {results' : List Value} (delivers : x.Delivers results)
    (delivers' : x.Delivers results') : results = results' := by
  obtain ⟨s, typed, kinds, holds⟩ := delivers.held
  obtain ⟨s', typed', kinds', holds'⟩ := delivers'.held
  cases typed.symm.trans typed'
  exact holds.unique holds' (kinds.trans kinds'.symm)

section

variable (stands : Settings.ofEnvironment x.read x.config >>= Registry.create = .ok r₀)

include stands

theorem create_start : (Embedding.start x.read x.config).create (some x.wasm) x.fuel =
    r₀.createOf x.wasm (Embedding.fuelOf x.fuel) :=
  Embedding.create_of_registry stands

theorem created_of_error (fails : r₀.createOf x.wasm (Embedding.fuelOf x.fuel) = .error e) :
    x.created.1 = 0 ∧ x.created.2.errors x.thread = .ofFailure e := by
  rw [created, Embedding.createInstance_of_fails ((create_start stands).trans fails)]
  exact ⟨rfl, if_pos rfl⟩

theorem created_of_ok {h : Handle} {r : Registry}
    (creates : r₀.createOf x.wasm (Embedding.fuelOf x.fuel) = .ok (h, r)) :
    ∃ errors i, x.created = (h, ⟨.ok r, errors⟩) ∧ h ≠ 0 ∧ r.get? h = some i ∧
      x.signature = i.signature x.interface x.name := by
  have start := create_start stands
  rw [creates] at start
  have created : ∃ errors, x.created = (h, ⟨.ok r, errors⟩) := by
    rw [created, Embedding.createInstance, start]
    exact ⟨_, rfl⟩
  obtain ⟨errors, created⟩ := created
  obtain ⟨m, -, creates⟩ := Registry.createOf_eq_ok.mp creates
  obtain ⟨i, pool, -, rfl, rfl⟩ := Registry.createFrom_eq_ok.mp creates
  have live : (r₀.enroll i pool).get? r₀.freshHandle = some i := by
    rw [Registry.get?_enroll, if_pos rfl]
  refine ⟨errors, i, created, Embedding.create_ne_zero start, live, ?_⟩
  rw [signature, created]
  exact Registry.signature_of_live live

variable (free : ∀ text ∈ x.interface, '\x00' ∉ text.toList) (named : '\x00' ∉ x.name.toList)
  (passes : x.Passes args)

include free named passes

theorem delivers_of_ok (answers : x.answer r₀ args = .ok results) : x.Delivers results := by
  obtain ⟨h, r, creates, answers⟩ := Registry.firstCall_eq_ok.mp answers
  obtain ⟨errors, i, created, handle, live, typed⟩ := created_of_ok stands creates
  rw [Passes, typed] at passes
  rw [Registry.call_of_live live] at answers
  obtain ⟨s, a', typed', kinds, delivers, holds⟩ := Embedding.callOn_of_prepared_ok passes answers
  have target := target_cString handle free named
  obtain ⟨p, invoked⟩ := Embedding.invoke_of_callOn_ok target live errors x.thread delivers
  have called : x.called = (true, a', p) := by
    rw [Session.called, created]
    exact invoked
  refine ⟨⟨?_, ?_⟩, s, typed.trans typed', kinds, ?_⟩
  · rw [created]
    exact handle
  · rw [called]
  · rw [called]
    exact holds

theorem fails_of_error (fails : x.answer r₀ args = .error e) :
    ¬ x.Succeeds ∧ x.pending = .ofFailure e := by
  rcases Registry.firstCall_eq_error.mp fails with uncreated | ⟨h, r, creates, fails⟩
  · obtain ⟨null, message⟩ := created_of_error stands uncreated
    rw [pending, if_pos null]
    exact ⟨fun succeeds => succeeds.1 null, message⟩
  · obtain ⟨errors, i, created, handle, live, typed⟩ := created_of_ok stands creates
    rw [Passes, typed] at passes
    rw [Registry.call_of_live live] at fails
    have refuses := Embedding.callOn_of_prepared_error passes fails
    have target := target_cString handle free named
    obtain ⟨p, invoked, message⟩ :=
      Embedding.invoke_of_callOn_error target live errors x.thread refuses
    have called : x.called = (false, x.slots, p) := by
      rw [Session.called, created]
      exact invoked
    refine ⟨fun succeeds => ?_, ?_⟩
    · have answered := succeeds.2
      rw [called] at answered
      cases answered
    · rw [pending, created, if_neg handle, called]
      exact message

end

end Session

end Boundary

end ModuleHost
