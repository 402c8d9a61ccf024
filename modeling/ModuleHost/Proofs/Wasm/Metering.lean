import ModuleHost.Proofs.Wasm.Operation
import ModuleHost.Wasm.Execution

namespace ModuleHost.Wasm

namespace Program

variable {p : Program} {n n' : Nat}

theorem isExhausted_mono (empty : p.isExhausted n = true) (more : n ≤ n') :
    p.isExhausted n' = true := by
  unfold isExhausted at empty ⊢
  split at empty
  · exact decide_eq_true ((of_decide_eq_true empty).trans more)
  · cases empty

theorem isExhausted_iff {budget : Nat} (metered : p.budget = some budget) :
    p.isExhausted n = true ↔ budget ≤ n := by
  simp [isExhausted, metered]

theorem not_isExhausted (unmetered : p.budget = none) : p.isExhausted n = false := by
  simp [isExhausted, unmetered]

end Program

def Store.late (k : Nat) (s : Store) : Store :=
  s.withFuel (s.fuelSpent + k)

def Config.late (k : Nat) (c : Config) : Config :=
  c.withFuel (c.store.fuelSpent + k) (c.spent + k)

def Exit.late (k : Nat) : Exit → Exit
  | .next c => .next (c.late k)
  | .stop reason s => .stop reason (s.late k)

def Next.late (k : Nat) : Next → Next
  | .go code labels c => .go code labels (c.late k)
  | .call f code labels c => .call f code labels (c.late k)
  | .tail f c => .tail f (c.late k)
  | .finish c => .finish (c.late k)
  | .stop reason s => .stop reason (s.late k)

def CallExit.late (k : Nat) : CallExit → CallExit
  | .done results s => .done results (s.late k)
  | .stop reason s => .stop reason (s.late k)

def Program.withBudget (p : Program) (budget : Option Nat) : Program :=
  { p with budget }

variable {p : Program} {budget : Option Nat} {k : Nat}

theorem run_late (o : Op) (c : Config) : o.run (c.late k) = (o.run c).late k := by
  rw [Config.late, run_withFuel]
  cases run : o.run c with
  | next c' =>
    obtain ⟨told, spent⟩ := fuel_of_run_next run
    rw [← told, ← spent]
    rfl
  | stop reason s =>
    rw [← fuel_of_run_stop run]
    rfl

section Steps

variable (room : ∀ n, p.isExhausted n = true → (p.withBudget budget).isExhausted (n + k) = true)

theorem branchTo_late (label : Nat) (labels : List Label) (c : Config) :
    branchTo label labels (c.late k) = (branchTo label labels c).late k := by
  unfold branchTo
  split <;> rfl

include room

theorem perform_late (i : Instr) (code : List Instr) (labels : List Label) (c : Config) :
    (∃ s, (p.withBudget budget).perform i code labels (c.late k) =
        .stop (.trap .outOfFuel) s) ∨
      (p.withBudget budget).perform i code labels (c.late k) =
        (p.perform i code labels c).late k := by
  -- Only a loop looks at fuel before it goes on.
  cases i with
  | op o =>
    right
    simp only [Program.perform, run_late]
    cases o.run c <;> rfl
  | unreachable | block | ret | call | returnCall => exact .inr rfl
  | br label => exact .inr (branchTo_late label labels c)
  | loop type body =>
    simp only [Program.perform]
    by_cases empty : (p.withBudget budget).isExhausted (c.late k).spent = true
    · rw [if_pos empty]
      exact .inl ⟨_, rfl⟩
    · have fueled : ¬ p.isExhausted c.spent = true := fun dry => empty (room _ dry)
      rw [if_neg empty, if_neg fueled]
      exact .inr rfl
  | ifElse type yes no =>
    obtain ⟨store, locals, stack, spent⟩ := c
    cases stack <;> exact .inr rfl
  | brIf label =>
    right
    obtain ⟨store, locals, stack, spent⟩ := c
    cases stack with
    | nil => rfl
    | cons condition stack =>
      show (if condition = 0 then _ else _) = Next.late k (if condition = 0 then _ else _)
      split
      · rfl
      · exact branchTo_late label labels ⟨store, locals, stack, spent⟩
  | brTable targets otherwise =>
    right
    obtain ⟨store, locals, stack, spent⟩ := c
    cases stack with
    | nil => rfl
    | cons index stack => exact branchTo_late _ labels ⟨store, locals, stack, spent⟩
  | callIndirect table type | returnCallIndirect table type =>
    right
    obtain ⟨store, locals, stack, spent⟩ := c
    cases stack with
    | nil => rfl
    | cons index stack =>
      have same : (p.withBudget budget).lookup table type index
          (store.withFuel (store.fuelSpent + k)) = p.lookup table type index store := rfl
      simp only [Program.perform, Config.late, Config.withFuel, same]
      cases p.lookup table type index store <;> rfl

theorem step_late (code : List Instr) (labels : List Label) (c : Config) :
    (∃ s, (p.withBudget budget).step code labels (c.late k) = .stop (.trap .outOfFuel) s) ∨
      (p.withBudget budget).step code labels (c.late k) = (p.step code labels c).late k := by
  cases code with
  | nil => cases labels <;> exact .inr rfl
  | cons i code =>
    have spends : (c.late k).spent + i.cost = c.spent + i.cost + k := Nat.add_right_comm ..
    have step := perform_late room i code labels { c with spent := c.spent + i.cost }
    simp only [Program.step, spends]
    exact step

end Steps

namespace Program

section Enter

variable {enter : Func → List Slot → Store → CallExit} {body : Config → CallExit}
  {callee : Nat → List Slot → Store → CallExit} {f depth : Nat} {func : Func} {args : List Slot}
  {s : Store}

theorem dispatch_host {call : Wasi.Call} (host : p.hostCalls[f]? = some call) :
    p.dispatch enter f args s = p.serve call args.reverse s := by
  simp only [dispatch, host]

theorem dispatch_missing (guest : p.hostCalls[f]? = none)
    (missing : p.module.funcs[f - p.hostCalls.size]? = none) :
    p.dispatch enter f args s = .stop .stuck s := by
  simp only [dispatch, guest, missing]

theorem enterWith_exhausted (empty : p.isExhausted (s.fuelSpent + 1) = true) :
    p.enterWith body func args s = .stop (.trap .outOfFuel) (s.withFuel (s.fuelSpent + 1)) :=
  if_pos empty

theorem enterWith_fueled (fueled : ¬ p.isExhausted (s.fuelSpent + 1) = true) :
    p.enterWith body func args s =
      body ⟨s, args.reverse.toArray ++ Array.replicate func.localCount 0, [], s.fuelSpent + 1⟩ :=
  if_neg fueled

variable (guest : p.hostCalls[f]? = none)
  (found : p.module.funcs[f - p.hostCalls.size]? = some func)

include guest found

theorem dispatch_guest : p.dispatch enter f args s = enter func args s := by
  simp only [dispatch, guest, found]

theorem callAt_zero : p.callAt 0 f args s = .stop (.trap .stackOverflow) s :=
  dispatch_guest guest found

theorem callAt_succ : p.callAt (depth + 1) f args s =
    p.enterWith (p.run (p.callAt depth) (maxSteps + func.body.length) func.body []) func args s :=
  dispatch_guest guest found

end Enter

end Program

def Config.resume (c : Config) (type : FuncType) : CallExit → Exit
  | .stop reason s => .stop reason s
  | .done results s =>
    .next ⟨s, c.locals,
      takeOperands type.results.length results ++ c.stack.drop type.params.length, s.fuelSpent⟩

theorem callFrom_eq {callee : Nat → List Slot → Store → CallExit} {f : Nat} {c : Config} :
    p.callFrom callee f c = c.resume (p.funcType f) (callee f (p.argsOf f c) c.save) := by
  simp only [Program.callFrom]
  cases callee f (p.argsOf f c) c.save <;> rfl

def CallExit.returning (type : FuncType) : CallExit → CallExit
  | .stop reason s => .stop reason s
  | .done results s => .done (takeOperands type.results.length results).reverse s

theorem call_eq {f : Nat} {args : List Slot} {s : Store} :
    p.call f args s = (p.callAt p.maxDepth f args.reverse s).returning (p.funcType f) := by
  unfold Program.call
  cases p.callAt p.maxDepth f args.reverse s <;> rfl

theorem serve_late (call : Wasi.Call) (args : List Slot) (s : Store) :
    (p.withBudget budget).serve call args (s.late k) = (p.serve call args s).late k := by
  have shared : (p.withBudget budget).sharedMemory = p.sharedMemory := rfl
  have world : (p.withBudget budget).outside = p.outside := rfl
  simp only [Program.serve, shared, world]
  cases p.sharedMemory with
  | none => rfl
  | some m =>
    have same : Wasi.serve p.outside call args ((s.late k).memory m) (s.late k).descriptors =
      Wasi.serve p.outside call args (s.memory m) s.descriptors := rfl
    simp only [same]
    cases Wasi.serve p.outside call args (s.memory m) s.descriptors <;> rfl

/-- A run that does what another one does, late, unless a limit of its own ended it. -/
def CallExit.Follows (limit : Stop → Prop) (k : Nat) (e e' : CallExit) : Prop :=
  (∃ reason s, e = .stop reason s ∧ limit reason) ∨ e = e'.late k

def Within (limit : Prop) (bound bound' : Nat) : Prop :=
  bound = bound' ∨ bound < bound' ∧ limit

theorem within_succ {limit : Prop} {bound bound' : Nat} (within : Within limit (bound + 1) bound') :
    ∃ below, bound' = below + 1 ∧ Within limit bound below := by
  rcases within with rfl | ⟨less, limited⟩
  · exact ⟨bound, rfl, .inl rfl⟩
  · exact ⟨bound' - 1, by omega, .inr ⟨by omega, limited⟩⟩

/-- One program has no more fuel left than another one that has spent `k` units less. -/
structure Bounded (limit : Stop → Prop) (k : Nat) (p : Program) (budget : Option Nat) : Prop where
  fuel : limit (.trap .outOfFuel)
  room : ∀ n, p.isExhausted n = true → (p.withBudget budget).isExhausted (n + k) = true

def CallsFollow (limit : Stop → Prop) (k : Nat)
    (callee callee' : Nat → List Slot → Store → CallExit) : Prop :=
  ∀ f args s, (callee f args (s.late k)).Follows limit k (callee' f args s)

section Runs

variable {limit : Stop → Prop} {enter enter' : Func → List Slot → Store → CallExit}
  {body body' : Config → CallExit} {callee callee' : Nat → List Slot → Store → CallExit}

theorem late_dispatch
    (enters : ∀ func args s, (enter func args (s.late k)).Follows limit k (enter' func args s)) :
    CallsFollow limit k ((p.withBudget budget).dispatch enter) (p.dispatch enter') := by
  intro f args s
  cases host : p.hostCalls[f]? with
  | some call =>
    rw [Program.dispatch_host host, Program.dispatch_host (p := p.withBudget budget) host]
    exact .inr (serve_late call args.reverse s)
  | none =>
    have host' : (p.withBudget budget).hostCalls[f]? = none := host
    cases found : p.module.funcs[f - p.hostCalls.size]? with
    | none =>
      rw [Program.dispatch_missing host found, Program.dispatch_missing host' found]
      exact .inr rfl
    | some func =>
      rw [Program.dispatch_guest host found, Program.dispatch_guest host' found]
      exact enters func args s

variable (bounded : Bounded limit k p budget)

include bounded

theorem late_enterWith (runs : ∀ c, (body (c.late k)).Follows limit k (body' c)) (func : Func)
    (args : List Slot) (s : Store) :
    ((p.withBudget budget).enterWith body func args (s.late k)).Follows limit k
      (p.enterWith body' func args s) := by
  -- Entering a function is paid for, so fuel can run out before the body does anything.
  have spends : (s.late k).fuelSpent + 1 = s.fuelSpent + 1 + k := Nat.add_right_comm ..
  by_cases empty : (p.withBudget budget).isExhausted ((s.late k).fuelSpent + 1) = true
  · rw [Program.enterWith_exhausted empty]
    exact .inl ⟨_, _, rfl, bounded.fuel⟩
  · have fueled : ¬ p.isExhausted (s.fuelSpent + 1) = true :=
      fun dry => empty (spends ▸ bounded.room _ dry)
    rw [Program.enterWith_fueled empty, Program.enterWith_fueled fueled, spends]
    exact runs ⟨s, _, [], s.fuelSpent + 1⟩

theorem late_run (calls : CallsFollow limit k callee callee') (steps : Nat) (code : List Instr)
    (labels : List Label) (c : Config) :
    ((p.withBudget budget).run callee steps code labels (c.late k)).Follows limit k
      (p.run callee' steps code labels c) := by
  induction steps generalizing code labels c with
  | zero => exact .inr rfl
  | succ steps ih =>
    simp only [Program.run]
    rcases step_late bounded.room code labels c with ⟨s, empty⟩ | same
    · rw [empty]
      exact .inl ⟨_, _, rfl, bounded.fuel⟩
    · rw [same]
      cases p.step code labels c with
      | go code labels c => exact ih code labels c
      | finish c => exact .inr rfl
      | stop reason s => exact .inr rfl
      | tail f c =>
        exact late_dispatch (fun func => late_enterWith bounded (ih func.body []) func) f
          (p.argsOf f c) c.save
      | call f code labels c =>
        have called := calls f (p.argsOf f c) c.save
        have resumed : (p.withBudget budget).callFrom callee f (c.late k) =
            (c.late k).resume (p.funcType f) (callee f (p.argsOf f c) (c.save.late k)) :=
          callFrom_eq
        simp only [Next.late, resumed, callFrom_eq]
        -- A limit that ends the function that is called ends this one too.
        rcases called with ⟨reason, s, stops, limited⟩ | same
        · rw [stops]
          exact .inl ⟨_, _, rfl, limited⟩
        · rw [same]
          cases callee' f (p.argsOf f c) c.save with
          | stop reason s => exact .inr rfl
          | done results s =>
            exact ih code labels ⟨s, c.locals, takeOperands _ results ++ _, s.fuelSpent⟩

theorem late_callAt {depth depth' : Nat}
    (nests : Within (limit (.trap .stackOverflow)) depth depth') :
    CallsFollow limit k ((p.withBudget budget).callAt depth) (p.callAt depth') := by
  induction depth generalizing depth' with
  | zero =>
    rcases nests with rfl | ⟨deeper, limited⟩
    · exact late_dispatch fun _ _ _ => .inr rfl
    · obtain ⟨below, rfl⟩ := Nat.exists_eq_add_one_of_ne_zero deeper.ne'
      exact late_dispatch fun _ _ _ => .inl ⟨_, _, rfl, limited⟩
  | succ depth ih =>
    obtain ⟨below, rfl, within⟩ := within_succ nests
    exact late_dispatch fun func =>
      late_enterWith bounded (late_run bounded (ih within) _ func.body []) func

theorem late_call (f : Nat) (args : List Slot) (s : Store) :
    ((p.withBudget budget).call f args (s.late k)).Follows limit k (p.call f args s) := by
  have called : ((p.withBudget budget).callAt p.maxDepth f args.reverse (s.late k)).Follows limit k
      (p.callAt p.maxDepth f args.reverse s) :=
    late_callAt bounded (.inl rfl) f args.reverse s
  rw [call_eq, call_eq]
  rcases called with ⟨reason, s, stops, limited⟩ | same
  · left
    refine ⟨reason, s, ?_, limited⟩
    exact congrArg (CallExit.returning (p.funcType f)) stops
  · right
    refine (congrArg (CallExit.returning (p.funcType f)) same).trans ?_
    cases p.callAt p.maxDepth f args.reverse s <;> rfl

end Runs

end ModuleHost.Wasm
