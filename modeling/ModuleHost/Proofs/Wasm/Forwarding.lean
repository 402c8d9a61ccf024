import ModuleHost.Proofs.Wasm.Metering

namespace ModuleHost.Wasm

/-- What ends a run from outside of the guest: it has no fuel, or no room for another call. -/
def Stop.IsLimit (reason : Stop) : Prop :=
  reason = .trap .outOfFuel ∨ reason = .trap .stackOverflow

def forwardTo (g count : Nat) (rest : List Instr) : List Instr :=
  (List.range count).map (fun n => .op (.var (.localGet n))) ++ .call g :: .unreachable :: rest

variable {p : Program} {k : Nat}

theorem callAt_follows {depth depth' : Nat} (lower : depth ≤ depth') (f : Nat) (args : List Slot)
    (s : Store) :
    (p.callAt depth f args (s.late k)).Follows Stop.IsLimit k (p.callAt depth' f args s) := by
  have bounded : Bounded Stop.IsLimit k p p.budget :=
    ⟨.inl rfl, fun _ empty => Program.isExhausted_mono empty (Nat.le_add_right _ _)⟩
  have nests : Within (Stop.IsLimit (.trap .stackOverflow)) depth depth' :=
    (Nat.eq_or_lt_of_le lower).imp id fun less => ⟨less, .inr rfl⟩
  exact late_callAt bounded nests f args s

variable {callee : Nat → List Slot → Store → CallExit}

theorem run_localGets (steps first count : Nat) (code : List Instr) (labels : List Label)
    (s : Store) (locals : Array Slot) (stack : List Slot) (spent : Nat) :
    p.run callee (steps + count)
        ((List.range' first count).map (fun n => .op (.var (.localGet n))) ++ code) labels
        ⟨s, locals, stack, spent⟩ =
      p.run callee steps code labels
        ⟨s, locals, ((List.range' first count).map (locals.getD · 0)).reverse ++ stack,
          spent + count⟩ := by
  induction count generalizing first stack spent with
  | zero => rfl
  | succ count ih =>
    have rest := ih (first + 1) (locals.getD first 0 :: stack) (spent + 1)
    simp only [List.range'_succ, List.map_cons, List.reverse_cons, List.append_assoc,
      List.cons_append]
    rw [Nat.add_right_comm spent 1 count] at rest
    exact rest

theorem map_getD_range (args : List Slot) (more : Array Slot) :
    (List.range args.length).map ((args.toArray ++ more).getD · 0) = args := by
  apply List.ext_getElem?
  intro i
  by_cases inside : i < args.length
  · simp [inside, Array.getElem?_append]
  · simp [inside]

theorem takeOperands_length (stack : List Slot) : takeOperands stack.length stack = stack := by
  induction stack with
  | nil => rfl
  | cons a stack ih => exact congrArg (a :: ·) ih

theorem run_call (steps g : Nat) (code : List Instr) (labels : List Label) (c : Config) :
    p.run callee (steps + 1) (.call g :: code) labels c =
      match p.callFrom callee g { c with spent := c.spent + 1 } with
      | .next c => p.run callee steps code labels c
      | .stop reason s => .stop reason s :=
  rfl

def CallExit.trapping : CallExit → CallExit
  | .stop reason s => .stop reason s
  | .done _ s => .stop (.trap .unreachableCodeReached) s

theorem run_forwardTo (steps g : Nat) (rest : List Instr) (args : List Slot) (s : Store)
    (more : Array Slot) (spent : Nat) (params : (p.funcType g).params.length = args.length) :
    p.run callee (steps + 2 + args.length) (forwardTo g args.length rest) []
        ⟨s, args.toArray ++ more, [], spent⟩ =
      (callee g args.reverse (s.withFuel (spent + args.length + 1))).trapping := by
  have operands : takeOperands args.length args.reverse = args.reverse := by
    rw [← List.length_reverse, takeOperands_length]
  rw [forwardTo, List.range_eq_range', run_localGets, ← List.range_eq_range', map_getD_range,
    List.append_nil]
  rw [run_call, callFrom_eq, Program.argsOf, params, operands]
  show (match Config.resume _ _ (callee g args.reverse (s.withFuel (spent + args.length + 1))) with
    | .next c => p.run callee (steps + 1) (.unreachable :: rest) [] c
    | .stop reason s => .stop reason s) = _
  cases callee g args.reverse (s.withFuel (spent + args.length + 1)) <;> rfl

theorem callAt_forwarding {f g depth : Nat} {func : Func} {rest : List Instr} {args : List Slot}
    {s : Store} (guest : p.hostCalls[f]? = none)
    (found : p.module.funcs[f - p.hostCalls.size]? = some func)
    (body : func.body = forwardTo g args.length rest)
    (params : (p.funcType g).params.length = args.length)
    (fueled : ¬ p.isExhausted (s.fuelSpent + 1) = true) :
    p.callAt (depth + 1) f args.reverse s =
      (p.callAt depth g args.reverse (s.late (args.length + 2))).trapping := by
  have steps : Program.maxSteps + func.body.length =
      Program.maxSteps + rest.length + 2 + args.length := by
    rw [body, forwardTo]
    simp only [List.length_append, List.length_map, List.length_range, List.length_cons]
    omega
  have spent : s.fuelSpent + 1 + args.length + 1 = s.fuelSpent + (args.length + 2) := by omega
  rw [Program.callAt_succ guest found, Program.enterWith_fueled fueled, steps, body,
    List.reverse_reverse, run_forwardTo _ _ _ _ _ _ _ params, spent]
  rfl

theorem callAt_of_call {f : Nat} {args results : List Slot} {s s' : Store}
    (returns : p.call f args s = .done results s') :
    ∃ results', p.callAt p.maxDepth f args.reverse s = .done results' s' := by
  rw [call_eq] at returns
  cases called : p.callAt p.maxDepth f args.reverse s with
  | stop reason s'' =>
    rw [called] at returns
    cases returns
  | done results' s'' =>
    rw [called] at returns
    cases returns
    exact ⟨results', rfl⟩

theorem call_forwarding {f g : Nat} {func : Func} {rest : List Instr} {args results : List Slot}
    {s s' : Store} (guest : p.hostCalls[f]? = none)
    (found : p.module.funcs[f - p.hostCalls.size]? = some func)
    (body : func.body = forwardTo g args.length rest)
    (params : (p.funcType g).params.length = args.length)
    (returns : p.call g args s = .done results s') :
    (∃ reason s'', p.call f args s = .stop reason s'' ∧ reason.IsLimit) ∨
      p.call f args s = .stop (.trap .unreachableCodeReached) (s'.late (args.length + 2)) := by
  have limited {reason : Stop} {s'' : Store} (limit : reason.IsLimit)
      (stops : p.callAt p.maxDepth f args.reverse s = .stop reason s'') :
      ∃ reason s'', p.call f args s = .stop reason s'' ∧ reason.IsLimit := by
    refine ⟨reason, s'', ?_, limit⟩
    rw [call_eq, stops]
    rfl
  obtain ⟨results', callee⟩ := callAt_of_call returns
  cases deep : p.maxDepth with
  | zero =>
    left
    rw [deep] at limited
    exact limited (.inr rfl) (Program.callAt_zero guest found)
  | succ depth =>
    rw [deep] at limited callee
    by_cases empty : p.isExhausted (s.fuelSpent + 1) = true
    · left
      exact limited (.inl rfl)
        ((Program.callAt_succ guest found).trans (Program.enterWith_exhausted empty))
    · have forwards : p.callAt (depth + 1) f args.reverse s = _ :=
        callAt_forwarding guest found body params empty
      -- As a callee, `g` has room for one call less than from outside, and it is late.
      have inner : (p.callAt depth g args.reverse (s.late (args.length + 2))).Follows
          Stop.IsLimit _ _ :=
        callAt_follows (Nat.le_succ depth) g args.reverse s
      rw [callee] at inner
      rcases inner with ⟨reason, s'', stops, limit⟩ | same
      · left
        rw [stops] at forwards
        exact limited limit forwards
      · right
        rw [same] at forwards
        rw [call_eq, deep, forwards]
        rfl

theorem run_op (steps : Nat) (o : Op) (code : List Instr) (labels : List Label) (c : Config) :
    p.run callee (steps + 1) (.op o :: code) labels c =
      match o.run { c with spent := c.spent + o.cost } with
      | .next c => p.run callee steps code labels c
      | .stop reason s => .stop reason s := by
  simp only [Program.run, Program.step, Program.perform, Instr.cost]
  cases o.run { c with spent := c.spent + o.cost } <;> rfl

theorem call_load {f count a : Nat} {func : Func} {type : ValType} {signed : Bool} {arg : MemArg}
    {s : Store} (guest : p.hostCalls[f]? = none)
    (found : p.module.funcs[f - p.hostCalls.size]? = some func)
    (body : func.body = [.op (.var (.localGet 0)), .op (.memory (.load type count signed arg))])
    (results : (p.funcType f).results = [type])
    (inside : (s.memory arg.memory).contains (a + arg.offset) count = true) :
    (∃ reason s', p.call f [a] s = .stop reason s' ∧ reason.IsLimit) ∨
      ∃ s', p.call f [a] s =
        .done [loaded type count signed ((s.memory arg.memory).readNat (a + arg.offset) count)]
          s' := by
  obtain ⟨steps, many⟩ : ∃ steps, Program.maxSteps + func.body.length = steps + 3 :=
    ⟨Program.maxSteps - 1, by rw [body]; rfl⟩
  rw [call_eq, List.reverse_singleton]
  cases p.maxDepth with
  | zero =>
    left
    rw [Program.callAt_zero guest found]
    exact ⟨_, _, rfl, .inr rfl⟩
  | succ depth =>
    rw [Program.callAt_succ guest found]
    by_cases empty : p.isExhausted (s.fuelSpent + 1) = true
    · left
      rw [Program.enterWith_exhausted empty]
      exact ⟨_, _, rfl, .inl rfl⟩
    · right
      -- The body is the parameter and then the load, each of which costs one unit.
      have parameter :
          Array.getD ([a].reverse.toArray ++ Array.replicate func.localCount 0) 0 0 = a := by
        simp [Array.getD]
      have loads (c : Config) (same : c.store = s) (operand : c.stack = [a]) :
          (Op.memory (.load type count signed arg)).run c =
            c.push (loaded type count signed ((s.memory arg.memory).readNat (a + arg.offset) count))
              [] := by
        obtain ⟨store, locals, stack, spent⟩ := c
        subst same operand
        exact if_pos inside
      rw [Program.enterWith_fueled empty, many, body, run_op]
      show ∃ s', CallExit.returning _
        (p.run _ (steps + 2) [.op (.memory (.load type count signed arg))] []
          ⟨s, _, [Array.getD _ 0 0], _⟩) = _
      rw [parameter, run_op, loads _ rfl rfl]
      refine ⟨s.withFuel (s.fuelSpent + 3), ?_⟩
      show CallExit.done (takeOperands (p.funcType f).results.length [_]).reverse _ = _
      rw [results]
      rfl

end ModuleHost.Wasm
