import Mathlib.Logic.Relation
import ModuleHost.Proofs.Wasm.Invariant
import ModuleHost.Proofs.Wasm.Metering

/-!
# Points of a run

Where a run traps, the store is the one that the instruction found which trapped, with more fuel
spent (`reaches_of_run_trap`, `trapsWith_of_call`): neither that instruction nor the calls around it
put anything back.
-/

namespace ModuleHost.Wasm

/-- The code that a function goes on with, and what it goes on from. -/
structure Point where
  code : List Instr
  labels : List Label
  config : Config

def Func.entry (func : Func) (args : List Slot) (s : Store) : Point :=
  ⟨func.body, [],
    ⟨s, args.reverse.toArray ++ Array.replicate func.localCount 0, [], s.fuelSpent + 1⟩⟩

namespace Point

/-- From a point to the next one: past an instruction, into a function that is called or that takes
the place of this one, or past a call that has returned. -/
inductive Next (p : Program) : Point → Point → Prop
  | go {code code' : List Instr} {labels labels' : List Label} {c c' : Config}
    (step : p.step code labels c = .go code' labels' c') :
    Next p ⟨code, labels, c⟩ ⟨code', labels', c'⟩
  | enter {code code' : List Instr} {labels labels' : List Label} {c c' : Config} {f : Nat}
    {func : Func} (step : p.step code labels c = .call f code' labels' c')
    (guest : p.hostCalls[f]? = none)
    (found : p.module.funcs[f - p.hostCalls.size]? = some func) :
    Next p ⟨code, labels, c⟩ (func.entry (p.argsOf f c') c'.save)
  | replace {code : List Instr} {labels : List Label} {c c' : Config} {f : Nat} {func : Func}
    (step : p.step code labels c = .tail f c') (guest : p.hostCalls[f]? = none)
    (found : p.module.funcs[f - p.hostCalls.size]? = some func) :
    Next p ⟨code, labels, c⟩ (func.entry (p.argsOf f c') c'.save)
  | past {code code' : List Instr} {labels labels' : List Label} {c c' c'' : Config}
    {f depth : Nat} (step : p.step code labels c = .call f code' labels' c')
    (returns : p.callFrom (p.callAt depth) f c' = .next c'') :
    Next p ⟨code, labels, c⟩ ⟨code', labels', c''⟩

def Reaches (p : Program) : Point → Point → Prop :=
  Relation.ReflTransGen (Next p)

/-- The instruction at a point traps, or the call that it makes does on entry. -/
def Traps (p : Program) (q : Point) (t : Trap) : Prop :=
  (∃ s, p.step q.code q.labels q.config = .stop (.trap t) s) ∨
    (t = .stackOverflow ∨ t = .outOfFuel) ∧
      ((∃ f code labels c, p.step q.code q.labels q.config = .call f code labels c) ∨
        ∃ f c, p.step q.code q.labels q.config = .tail f c)

end Point

variable {p : Program}

theorem Invariant.next {I : Store → Nat → Prop} {E : Stop → Store → Prop} (inv : Invariant p I E)
    {q q' : Point} (next : Point.Next p q q') (holds : I q.config.store q.config.spent) :
    I q'.config.store q'.config.spent := by
  have stepped := inv.step q.code q.labels holds
  cases next with
  | go step =>
    rw [step] at stepped
    exact stepped
  | enter step | replace step =>
    rw [step] at stepped
    exact inv.spend _ _ 1 (inv.save _ _ stepped)
  | @past _ _ _ _ _ _ _ f depth step returns =>
    rw [step] at stepped
    have called := inv.callFrom (fun f args _ => inv.callAt depth f args) f stepped
    rw [returns] at called
    exact called

theorem Invariant.reaches {I : Store → Nat → Prop} {E : Stop → Store → Prop}
    (inv : Invariant p I E) {q q' : Point} (reaches : Point.Reaches p q q')
    (holds : I q.config.store q.config.spent) : I q'.config.store q'.config.spent := by
  induction reaches with
  | refl => exact holds
  | tail _ next ih => exact inv.next next ih

theorem branchTo_cases (label : Nat) (labels : List Label) (c : Config) :
    (∃ code labels' c', branchTo label labels c = .go code labels' c') ∨
      branchTo label labels c = .finish c := by
  unfold branchTo
  split
  · exact .inr rfl
  · exact .inl ⟨_, _, _, rfl⟩

theorem branchTo_ne_stop {label : Nat} {labels : List Label} {c : Config} {reason : Stop}
    {s : Store} : branchTo label labels c ≠ .stop reason s := by
  rcases branchTo_cases label labels c with ⟨_, _, _, goes⟩ | finishes <;> simp [*]

theorem store_of_perform_stop {i : Instr} {code : List Instr} {labels : List Label} {c : Config}
    {reason : Stop} {s : Store} (stops : p.perform i code labels c = .stop reason s) :
    ∃ told, s = c.store.withFuel told := by
  have kept : ∃ told, c.store = c.store.withFuel told := ⟨c.store.fuelSpent, rfl⟩
  have saved : ∃ told, c.save = c.store.withFuel told := ⟨c.spent, rfl⟩
  -- Control tells the store what has been spent before it stops the guest; operators do not.
  cases i with
  | op o =>
    have stopped := stop_of_run o c
    simp only [Program.perform] at stops
    split at stops
    · cases stops
    · rename_i run
      cases stops
      rw [run] at stopped
      rw [stopped.1]
      exact kept
  | unreachable =>
    cases stops
    exact saved
  | block | ret | call | returnCall => cases stops
  | br => exact absurd stops branchTo_ne_stop
  | loop =>
    simp only [Program.perform] at stops
    split at stops <;> cases stops
    exact saved
  | ifElse =>
    simp only [Program.perform] at stops
    split at stops <;> cases stops
    exact kept
  | brIf =>
    simp only [Program.perform] at stops
    split at stops
    · split at stops
      · cases stops
      · exact absurd stops branchTo_ne_stop
    · cases stops
      exact kept
  | brTable =>
    simp only [Program.perform] at stops
    split at stops
    · exact absurd stops branchTo_ne_stop
    · cases stops
      exact kept
  | callIndirect | returnCallIndirect =>
    simp only [Program.perform] at stops
    split at stops
    · split at stops <;> cases stops
      exact saved
    · cases stops
      exact kept

theorem store_of_step_stop {code : List Instr} {labels : List Label} {c : Config} {reason : Stop}
    {s : Store} (stops : p.step code labels c = .stop reason s) :
    ∃ told, s = c.store.withFuel told := by
  cases code with
  | nil => cases labels <;> cases stops
  | cons i code =>
    have kept := store_of_perform_stop (c := { c with spent := c.spent + i.cost }) stops
    exact kept

def Next.Calls (s : Store) : Next → Prop
  | .call _ _ _ c | .tail _ c => c.store = s
  | _ => True

theorem calls_branchTo (label : Nat) (labels : List Label) (c : Config) (s : Store) :
    (branchTo label labels c).Calls s := by
  rcases branchTo_cases label labels c with ⟨_, _, _, goes⟩ | finishes
  · rw [goes]
    trivial
  · rw [finishes]
    trivial

theorem calls_perform (i : Instr) (code : List Instr) (labels : List Label) (c : Config) :
    (p.perform i code labels c).Calls c.store := by
  cases i with
  | unreachable | block | ret => trivial
  | call | returnCall => rfl
  | br => exact calls_branchTo ..
  | op | loop | ifElse =>
    simp only [Program.perform]
    split <;> trivial
  | brIf =>
    simp only [Program.perform]
    split
    · split
      · trivial
      · exact calls_branchTo ..
    · trivial
  | brTable =>
    simp only [Program.perform]
    split
    · exact calls_branchTo ..
    · trivial
  | callIndirect | returnCallIndirect =>
    simp only [Program.perform]
    split
    · split
      · rfl
      · trivial
    · trivial

theorem calls_step (code : List Instr) (labels : List Label) (c : Config) :
    (p.step code labels c).Calls c.store := by
  cases code with
  | nil => cases labels <;> trivial
  | cons i code => exact calls_perform i code labels { c with spent := c.spent + i.cost }

section Runs

variable {f steps depth : Nat} {args : List Slot} {s s' : Store} {t : Trap}

theorem serve_ne_trap {call : Wasi.Call} : p.serve call args s ≠ .stop (.trap t) s' := by
  unfold Program.serve
  repeat' split
  all_goals nofun

theorem dispatch_trap {body : Func → Config → CallExit}
    (stops : p.dispatch (fun func => p.enterWith (body func) func) f args s = .stop (.trap t) s') :
    ∃ func, p.hostCalls[f]? = none ∧ p.module.funcs[f - p.hostCalls.size]? = some func ∧
      (t = .outOfFuel ∧ (∃ told, s' = s.withFuel told) ∨
        body func (func.entry args s).config = .stop (.trap t) s') := by
  cases host : p.hostCalls[f]? with
  | some call =>
    rw [Program.dispatch_host host] at stops
    exact absurd stops serve_ne_trap
  | none =>
    cases found : p.module.funcs[f - p.hostCalls.size]? with
    | none =>
      rw [Program.dispatch_missing host found] at stops
      cases stops
    | some func =>
      rw [Program.dispatch_guest host found] at stops
      refine ⟨func, rfl, rfl, ?_⟩
      by_cases empty : p.isExhausted (s.fuelSpent + 1) = true
      · rw [Program.enterWith_exhausted empty] at stops
        cases stops
        exact .inl ⟨rfl, _, rfl⟩
      · rw [Program.enterWith_fueled empty] at stops
        exact .inr stops

def TrapsInside (p : Program) (callee : Nat → List Slot → Store → CallExit) : Prop :=
  ∀ {f args s t s'}, callee f args s = .stop (.trap t) s' →
    ∃ func, p.hostCalls[f]? = none ∧ p.module.funcs[f - p.hostCalls.size]? = some func ∧
      ((t = .stackOverflow ∨ t = .outOfFuel) ∧ (∃ told, s' = s.withFuel told) ∨
        ∃ q, Point.Reaches p (func.entry args s) q ∧ q.Traps p t ∧
          ∃ told, s' = q.config.store.withFuel told)

theorem reaches_of_run_trap (inside : TrapsInside p (p.callAt depth)) {code : List Instr}
    {labels : List Label} {c : Config}
    (stops : p.run (p.callAt depth) steps code labels c = .stop (.trap t) s) :
    ∃ q, Point.Reaches p ⟨code, labels, c⟩ q ∧ q.Traps p t ∧
      ∃ told, s = q.config.store.withFuel told := by
  induction steps generalizing code labels c with
  | zero => cases stops
  | succ steps ih =>
    have calls := calls_step (p := p) code labels c
    simp only [Program.run] at stops
    cases step : p.step code labels c with
    | go code' labels' c' =>
      rw [step] at stops
      obtain ⟨q, reaches, traps, kept⟩ := ih stops
      exact ⟨q, .head (.go step) reaches, traps, kept⟩
    | finish c' =>
      rw [step] at stops
      cases stops
    | stop reason s' =>
      rw [step] at stops
      cases stops
      exact ⟨_, .refl, .inl ⟨s, step⟩, store_of_step_stop step⟩
    | tail f c' =>
      rw [step] at stops calls
      have saved : c'.save = c.store.withFuel c'.spent := calls ▸ rfl
      obtain ⟨func, guest, found, ⟨rfl, told, rfl⟩ | ran⟩ := dispatch_trap stops
      · exact ⟨_, .refl, .inr ⟨.inr rfl, .inr ⟨_, _, step⟩⟩, told, saved ▸ rfl⟩
      · obtain ⟨q, reaches, traps, kept⟩ := ih ran
        exact ⟨q, .head (.replace step guest found) reaches, traps, kept⟩
    | call f code' labels' c' =>
      rw [step] at stops calls
      dsimp only at stops
      cases called : p.callFrom (p.callAt depth) f c' with
      | next c'' =>
        rw [called] at stops
        obtain ⟨q, reaches, traps, kept⟩ := ih stops
        exact ⟨q, .head (.past step called) reaches, traps, kept⟩
      | stop reason s' =>
        rw [called] at stops
        cases stops
        rw [callFrom_eq] at called
        cases entered : p.callAt depth f (p.argsOf f c') c'.save with
        | done results s' =>
          rw [entered] at called
          cases called
        | stop reason' s' =>
          rw [entered] at called
          cases called
          have saved : c'.save = c.store.withFuel c'.spent := calls ▸ rfl
          obtain ⟨func, guest, found, ⟨entry, told, rfl⟩ | ⟨q, reaches, traps, kept⟩⟩ :=
            inside entered
          -- Without a run of the function that is called, the call itself is where it traps.
          · exact ⟨_, .refl, .inr ⟨entry, .inl ⟨_, _, _, _, step⟩⟩, told, saved ▸ rfl⟩
          · exact ⟨q, .head (.enter step guest found) reaches, traps, kept⟩

theorem trapsInside_callAt (depth : Nat) : TrapsInside p (p.callAt depth) := by
  induction depth with
  | zero =>
    intro f args s t s' stops
    cases host : p.hostCalls[f]? with
    | some call =>
      rw [Program.callAt, Program.dispatch_host host] at stops
      exact absurd stops serve_ne_trap
    | none =>
      cases found : p.module.funcs[f - p.hostCalls.size]? with
      | none =>
        rw [Program.callAt, Program.dispatch_missing host found] at stops
        cases stops
      | some func =>
        rw [Program.callAt_zero host found] at stops
        cases stops
        exact ⟨func, rfl, rfl, .inl ⟨.inl rfl, _, rfl⟩⟩
  | succ depth ih =>
    intro f args s t s' stops
    obtain ⟨func, guest, found, ⟨empty, kept⟩ | ran⟩ := dispatch_trap stops
    · exact ⟨func, guest, found, .inl ⟨.inr empty, kept⟩⟩
    · exact ⟨func, guest, found, .inr (reaches_of_run_trap ih ran)⟩

/-- A call of a function traps with a store, at a point of its run or before the run begins. -/
def Program.TrapsWith (p : Program) (f : Nat) (args : List Slot) (s : Store) (t : Trap)
    (s' : Store) : Prop :=
  ∃ func, p.hostCalls[f]? = none ∧ p.module.funcs[f - p.hostCalls.size]? = some func ∧
    (t = .stackOverflow ∧ s' = s ∨
      ∃ q, Point.Reaches p (func.entry args.reverse s) q ∧ q.Traps p t ∧ s' = q.config.store)

theorem trapsWith_of_call (stops : p.call f args s = .stop (.trap t) s') (other : t ≠ .outOfFuel) :
    ∃ found told, p.TrapsWith f args s t found ∧ s' = found.withFuel told := by
  have entered : p.callAt p.maxDepth f args.reverse s = .stop (.trap t) s' := by
    rw [call_eq] at stops
    cases called : p.callAt p.maxDepth f args.reverse s with
    | done results s'' =>
      rw [called] at stops
      cases stops
    | stop reason s'' =>
      rw [called] at stops
      exact stops
  obtain ⟨func, guest, found, ⟨entry, told, kept⟩ | ⟨q, reaches, traps, told, kept⟩⟩ :=
    trapsInside_callAt p.maxDepth entered
  · have overflow : t = .stackOverflow := entry.resolve_right other
    exact ⟨s, told, ⟨func, guest, found, .inl ⟨overflow, rfl⟩⟩, kept⟩
  · exact ⟨_, told, ⟨func, guest, found, .inr ⟨q, reaches, traps, rfl⟩⟩, kept⟩

end Runs

end ModuleHost.Wasm
