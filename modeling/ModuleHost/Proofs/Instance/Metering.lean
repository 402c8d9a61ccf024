import ModuleHost.Proofs.Instance.Budget

namespace ModuleHost

def Registry.Answer.withoutFuel : Registry.Answer → Registry.Answer
  | .fuel _ => .fuel none
  | a => a

def Engine.metering (e : Engine) (metered : Bool) : Engine :=
  { e with settings := { e.settings with metered } }

namespace Instance

open Registry (Answer)
open Wasm (Slot Stop CallExit Program)

/-- The same instance with another budget, of which `k` units more have been spent. -/
def late (budget : Option Nat) (k : Nat) (i : Instance) : Instance :=
  { i with program := i.program.withBudget budget, store := i.store.late k }

variable {i : Instance} {budget : Option Nat} {k : Nat}

/-- With its budget, a program has no more fuel left than another one that has spent `k` units
less. -/
def Tighter (budget : Option Nat) (k : Nat) (p : Program) : Prop :=
  ∀ n, p.isExhausted n = true → (p.withBudget budget).isExhausted (n + k) = true

theorem Tighter.bounded {p : Program} (tighter : Tighter budget k p) :
    Wasm.Bounded (· = .trap .outOfFuel) k p budget :=
  ⟨rfl, tighter⟩

theorem enter_late (tighter : Tighter budget k i.program) (f : Nat) (args : List Slot) :
    ((i.late budget k).enter f args).Follows (· = .trap .outOfFuel) k (i.enter f args) := by
  show CallExit.Follows _ k (if i.isHostFunction f then _ else _)
    (if i.isHostFunction f then _ else _)
  split
  · exact .inr rfl
  · exact Wasm.callLaws.follows f args i.store tighter.bounded

theorem call_late (interface : Option String) (name : String) (args : List Value)
    (tighter : Tighter budget k i.program) :
    ((i.late budget k).call interface name args).1 = .error .fuelExhausted ∨
      (i.late budget k).call interface name args =
        ((i.call interface name args).1, (i.call interface name args).2.late budget k) := by
  simp only [call, callWith]
  generalize qualify interface name = name
  have resolves : (i.late budget k).resolve name = i.resolve name := rfl
  rw [resolves]
  cases i.resolve name with
  | error e => exact .inr rfl
  | ok target =>
    obtain ⟨f, s⟩ := target
    dsimp only
    cases s.requireArgs name args with
    | error e => exact .inr rfl
    | ok _ =>
      dsimp only
      rcases enter_late tighter f (args.map Value.bits) with ⟨_, s', stops, rfl⟩ | same
      · left
        rw [stops]
        show Except.error (faultOf _ f (.trap .outOfFuel)).toCallFailure = _
        unfold faultOf
        split <;> rfl
      · right
        rw [same]
        cases i.enter f (args.map Value.bits) <;> rfl

theorem writeBytes_late {offset : Nat} {bytes : List UInt8} :
    (i.late budget k).writeBytes offset bytes =
      (i.writeBytes offset bytes).map (late budget k) := by
  have finds : (i.late budget k).memoryWith offset bytes.length =
      i.memoryWith offset bytes.length := rfl
  unfold writeBytes
  rw [finds]
  cases i.memoryWith offset bytes.length <;> rfl

theorem step_late (tighter : Tighter budget k i.program) (op : Op)
    (fueled : ((i.late budget k).step op).1 ≠ .failure .fuelExhausted) :
    ((i.late budget k).step op).1.withoutFuel = (i.step op).1.withoutFuel ∧
      ((i.late budget k).step op).2 = (i.step op).2.late budget k := by
  cases op with
  | call interface name args =>
    rcases call_late interface name args tighter with empty | same
    · refine absurd ?_ fueled
      simp only [step, empty]
      rfl
    · simp only [step, same, and_self]
  | writeBytes offset bytes =>
    simp only [step, writeBytes_late]
    cases i.writeBytes offset bytes <;> exact ⟨rfl, rfl⟩
  | signature | readBytes | fuelLeft | fingerprint => exact ⟨rfl, rfl⟩

theorem program_step (i : Instance) (op : Op) : (i.step op).2.program = i.program := by
  obtain ⟨store, after, -⟩ := i.step_spends op
  rw [after]

theorem trace_late (tighter : Tighter budget k i.program) (ops : List Op)
    (fueled : .failure .fuelExhausted ∉ (i.late budget k).trace ops) :
    ((i.late budget k).trace ops).map Answer.withoutFuel =
        (i.trace ops).map Answer.withoutFuel ∧
      (i.late budget k).after ops = (i.after ops).late budget k := by
  induction ops generalizing i with
  | nil => exact ⟨rfl, rfl⟩
  | cons op ops ih =>
    have now : ((i.late budget k).step op).1 ≠ .failure .fuelExhausted :=
      fun empty => fueled (empty ▸ List.mem_cons_self)
    have later : .failure .fuelExhausted ∉ ((i.late budget k).step op).2.trace ops :=
      fun empty => fueled (List.mem_cons_of_mem _ empty)
    obtain ⟨answer, next⟩ := step_late tighter op now
    have tighter' : Tighter budget k (i.step op).2.program := by
      rwa [program_step]
    rw [next] at later
    obtain ⟨answers, after⟩ := ih tighter' later
    rw [← next] at answers after
    refine ⟨?_, after⟩
    show Answer.withoutFuel _ :: _ = Answer.withoutFuel _ :: _
    rw [answer]
    exact congrArg (_ :: ·) answers

theorem runStart_late {p : Program} (tighter : Tighter budget k p) (s : Wasm.Store) :
    runStart (p.withBudget budget) (s.late k) = .error (.inGuest (.trap .outOfFuel)) ∨
      runStart (p.withBudget budget) (s.late k) = (runStart p s).map (·.late k) := by
  have start : (p.withBudget budget).module.start = p.module.start := rfl
  unfold runStart
  rw [start]
  cases p.module.start with
  | none => exact .inr rfl
  | some f =>
    dsimp only
    rcases Wasm.callLaws.follows f [] s tighter.bounded with ⟨_, s', stops, rfl⟩ | same
    · left
      rw [stops]
    · right
      rw [same]
      cases p.call f [] s <;> rfl

theorem create_late {engine : Engine} {limits : Settings.Limits} {metered : Bool}
    {default fuel fuel' : Option UInt64} (pool : Pool) (m : GuestModule)
    (tighter : ∀ p : Program,
      p.budget =
          Instance.budget (engine.metering metered).settings { limits with fuel := default } fuel' →
        Tighter (Instance.budget engine.settings limits fuel) 0 p) :
    (∃ e, create engine limits pool m fuel = .error e ∧ e.SaysExhausted) ∨
      create engine limits pool m fuel =
        (create (engine.metering metered) { limits with fuel := default } pool m fuel').map
          fun (i, pool) => (i.late (Instance.budget engine.settings limits fuel) 0, pool) := by
  simp only [create_eq, Engine.metering, getReady_metering]
  cases getReady engine.settings limits pool m.module with
  | error e => exact .inr rfl
  | ok ready =>
    let loose := linked (engine.metering metered) { limits with fuel := default } m.module fuel'
      ready.calls
    have started : runStart (linked engine limits m.module fuel ready.calls) ready.store =
          .error (.inGuest (.trap .outOfFuel)) ∨
        runStart (linked engine limits m.module fuel ready.calls) ready.store =
          (runStart loose ready.store).map (·.late 0) :=
      runStart_late (tighter loose rfl) ready.store
    simp only [bind, Except.bind]
    rcases started with empty | same
    · left
      rw [empty]
      exact ⟨_, rfl, .inr rfl⟩
    · right
      rw [same]
      simp only [loose, Engine.metering]
      generalize runStart _ ready.store = started
      cases started with
      | error | ok => rfl

end Instance

end ModuleHost
