import ModuleHost.Proofs.Wasm.Forwarding
import ModuleHost.Proofs.Wasm.Growth
import ModuleHost.Proofs.Wasm.Outside
import ModuleHost.Proofs.Wasm.Soundness

namespace ModuleHost.Wasm

/-- What a host relies on of an engine that calls the functions of programs for it. -/
structure CallLaws (call : Program → Nat → List Slot → Store → CallExit) : Prop where
  spends : ∀ p f args s, (call p f args s).All (fun s' => s.fuelSpent ≤ s'.fuelSpent)
    fun reason s' => s.fuelSpent ≤ s'.fuelSpent ∧
      (reason = .trap .outOfFuel → p.isExhausted s'.fuelSpent = true)
  refuses : ∀ {p f func s} args, p.hostCalls[f]? = none →
    p.module.funcs[f - p.hostCalls.size]? = some func → 0 < p.maxDepth →
    p.isExhausted s.fuelSpent = true →
    call p f args s = .stop (.trap .outOfFuel) (s.withFuel (s.fuelSpent + 1))
  follows : ∀ {p budget k} f args s, Bounded (· = .trap .outOfFuel) k p budget →
    (call (p.withBudget budget) f args (s.late k)).Follows (· = .trap .outOfFuel) k
      (call p f args s)
  closed : ∀ {p w} f args s, p.hostCalls = #[] → call (p.withOutside w) f args s = call p f args s
  grows : ∀ p f args s, (call p f args s).All s.Grows fun _ s' => s.Grows s'
  -- A trap rolls nothing back, so it leaves what the instruction that trapped has found.
  trapsWith : ∀ {p f args s t s'}, call p f args s = .stop (.trap t) s' → t ≠ .outOfFuel →
    ∃ found told, p.TrapsWith f args s t found ∧ s' = found.withFuel told
  forwards : ∀ {p f g func rest args results s s'}, p.hostCalls[f]? = none →
    p.module.funcs[f - p.hostCalls.size]? = some func → func.body = forwardTo g args.length rest →
    (p.funcType g).params.length = args.length → call p g args s = .done results s' →
    (∃ reason s'', call p f args s = .stop reason s'' ∧ reason.IsLimit) ∨
      call p f args s = .stop (.trap .unreachableCodeReached) (s'.late (args.length + 2))
  loads : ∀ {p f count a func type signed arg s}, p.hostCalls[f]? = none →
    p.module.funcs[f - p.hostCalls.size]? = some func →
    func.body = [.op (.var (.localGet 0)), .op (.memory (.load type count signed arg))] →
    (p.funcType f).results = [type] →
    (s.memory arg.memory).contains (a + arg.offset) count = true →
    (∃ reason s', call p f [a] s = .stop reason s' ∧ reason.IsLimit) ∨
      ∃ s', call p f [a] s =
        .done [loaded type count signed ((s.memory arg.memory).readNat (a + arg.offset) count)] s'
  sound : ∀ {p c f args s}, p.Checked c → Fits (p.funcType f).params args → s.Typed c.globals →
    (call p f args s).All (Store.Typed c.globals) fun _ => Store.Typed c.globals
  counts : ∀ {p f args results s s'}, call p f args s = .done results s' →
    results.length = (p.funcType f).results.length
  returns : ∀ {p c f args results s s'}, p.Checked c → Fits (p.funcType f).params args →
    s.Typed c.globals → call p f args s = .done results s' → Fits (p.funcType f).results results ∧
      ∃ operands, p.callAt p.maxDepth f args.reverse s = .done operands s' ∧
        operands.take results.length = results.reverse

variable {p : Program} {c : Validation.Context} {f : Nat} {args results : List Slot} {s s' : Store}

theorem call_exhausted {func : Func} (args : List Slot) (guest : p.hostCalls[f]? = none)
    (found : p.module.funcs[f - p.hostCalls.size]? = some func) (nests : 0 < p.maxDepth)
    (empty : p.isExhausted s.fuelSpent = true) :
    p.call f args s = .stop (.trap .outOfFuel) (s.withFuel (s.fuelSpent + 1)) := by
  obtain ⟨depth, deep⟩ := Nat.exists_eq_add_of_lt nests
  rw [call_eq, deep, Nat.zero_add, Program.callAt_succ guest found,
    Program.enterWith_exhausted (Program.isExhausted_mono empty (Nat.le_succ _))]
  rfl

theorem length_takeOperands (count : Nat) (stack : List Slot) :
    (takeOperands count stack).length = count := by
  induction count generalizing stack with
  | zero => rfl
  | succ count ih => cases stack <;> simp [takeOperands, ih]

theorem length_of_call (returned : p.call f args s = .done results s') :
    results.length = (p.funcType f).results.length := by
  rw [call_eq] at returned
  cases ran : p.callAt p.maxDepth f args.reverse s with
  | stop reason s' =>
    rw [ran] at returned
    cases returned
  | done operands s' =>
    rw [ran] at returned
    cases returned
    rw [List.length_reverse, length_takeOperands]

theorem sound_call (checked : p.Checked c) (fits : Fits (p.funcType f).params args)
    (typed : s.Typed c.globals) :
    (p.call f args s).All (Store.Typed c.globals) fun _ => Store.Typed c.globals := by
  have called := sound_callAt p p.maxDepth c f _ s checked (List.rel_reverse fits) typed
  rw [call_eq]
  cases ran : p.callAt p.maxDepth f args.reverse s with
  | done operands s' =>
    rw [ran] at called
    exact called.2
  | stop reason s' =>
    rw [ran] at called
    exact called

theorem fits_of_call (checked : p.Checked c) (fits : Fits (p.funcType f).params args)
    (typed : s.Typed c.globals) (returned : p.call f args s = .done results s') :
    Fits (p.funcType f).results results ∧
      ∃ operands, p.callAt p.maxDepth f args.reverse s = .done operands s' ∧
        operands.take results.length = results.reverse := by
  have called := sound_callAt p p.maxDepth c f _ s checked (List.rel_reverse fits) typed
  rw [call_eq] at returned
  cases ran : p.callAt p.maxDepth f args.reverse s with
  | stop reason s' =>
    rw [ran] at returned
    cases returned
  | done operands s' =>
    rw [ran] at called returned
    cases returned
    obtain ⟨⟨below, fits⟩, -⟩ := called
    have top := (Fits.reverse_takeOperands fits).1
    have enough : (p.funcType f).results.length ≤ operands.length := by
      have lengths := fits.length_eq
      rw [List.length_append, List.length_reverse] at lengths
      omega
    refine ⟨by simpa using List.rel_reverse top, operands, rfl, ?_⟩
    rw [List.reverse_reverse, List.length_reverse, length_takeOperands, takeOperands_eq_take enough]

theorem callLaws : CallLaws Program.call where
  spends := spends_call
  refuses := call_exhausted
  follows f args s bounded := late_call bounded f args s
  closed f args s closed := call_withOutside closed f args s
  grows := grows_call
  trapsWith := trapsWith_of_call
  forwards := call_forwarding
  loads := call_load
  sound := sound_call
  counts := length_of_call
  returns := fits_of_call

end ModuleHost.Wasm
