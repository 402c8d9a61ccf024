import Mathlib.Tactic
import ModuleHost.Wasm.Operation

namespace ModuleHost.Wasm

def Store.withFuel (s : Store) (told : Nat) : Store :=
  { s with fuelSpent := told }

def Config.withFuel (c : Config) (told spent : Nat) : Config :=
  { c with store := c.store.withFuel told, spent := spent }

def Exit.withFuel (told spent : Nat) : Exit → Exit
  | .next c => .next (c.withFuel told spent)
  | .stop reason s => .stop reason (s.withFuel told)

section Fuel

variable {c : Config} {told spent : Nat}

theorem Config.withFuel_self : c.withFuel c.store.fuelSpent c.spent = c :=
  rfl

theorem pop_withFuel {go go' : Slot → List Slot → Exit}
    (same : ∀ a s, go' a s = (go a s).withFuel told spent) :
    (c.withFuel told spent).pop go' = (c.pop go).withFuel told spent := by
  obtain ⟨store, locals, stack, ahead⟩ := c
  rcases stack with _ | ⟨a, s⟩
  · rfl
  · exact same a s

theorem pop₂_withFuel {go go' : Slot → Slot → List Slot → Exit}
    (same : ∀ a b s, go' a b s = (go a b s).withFuel told spent) :
    (c.withFuel told spent).pop₂ go' = (c.pop₂ go).withFuel told spent := by
  obtain ⟨store, locals, stack, ahead⟩ := c
  rcases stack with _ | ⟨b, _ | ⟨a, s⟩⟩
  · rfl
  · rfl
  · exact same a b s

theorem pop₃_withFuel {go go' : Slot → Slot → Slot → List Slot → Exit}
    (same : ∀ a b d s, go' a b d s = (go a b d s).withFuel told spent) :
    (c.withFuel told spent).pop₃ go' = (c.pop₃ go).withFuel told spent := by
  obtain ⟨store, locals, stack, ahead⟩ := c
  rcases stack with _ | ⟨d, _ | ⟨b, _ | ⟨a, s⟩⟩⟩
  · rfl
  · rfl
  · rfl
  · exact same a b d s

theorem ite_withFuel {P : Prop} [Decidable P] {e₁ e₂ e₁' e₂' : Exit}
    (same₁ : e₁' = e₁.withFuel told spent) (same₂ : e₂' = e₂.withFuel told spent) :
    (if P then e₁' else e₂') = (if P then e₁ else e₂).withFuel told spent := by
  split
  · exact same₁
  · exact same₂

theorem popMany_withFuel {count : Nat} {go go' : List Slot → List Slot → Exit}
    (same : ∀ args s, go' args s = (go args s).withFuel told spent) :
    (c.withFuel told spent).popMany count go' = (c.popMany count go).withFuel told spent := by
  obtain ⟨store, locals, stack, ahead⟩ := c
  exact ite_withFuel (same _ _) rfl

theorem pushResult_withFuel (v : Except Trap Slot) (s : List Slot) :
    (c.withFuel told spent).pushResult v s = (c.pushResult v s).withFuel told spent := by
  cases v <;> rfl

theorem run_vector (op : VectorOp) (c : Config) :
    (Op.vector op).run c =
      c.popMany op.type.1.length fun args s => c.push (op.apply args) s :=
  rfl

theorem VarOp.run_withFuel (o : VarOp) (c : Config) (told spent : Nat) :
    o.run (c.withFuel told spent) = (o.run c).withFuel told spent := by
  cases o with
  | localGet | globalGet => rfl
  | localSet | localTee | globalSet => exact pop_withFuel fun _ _ => rfl

theorem MemoryOp.run_withFuel (o : MemoryOp) (c : Config) (told spent : Nat) :
    o.run (c.withFuel told spent) = (o.run c).withFuel told spent := by
  cases o with
  | size | drop => rfl
  | load | vectorLoad | grow => exact pop_withFuel fun _ _ => ite_withFuel rfl rfl
  | store | laneLoad | laneStore => exact pop₂_withFuel fun _ _ _ => ite_withFuel rfl rfl
  | fill | copy | init => exact pop₃_withFuel fun _ _ _ _ => ite_withFuel rfl rfl

theorem TableOp.run_withFuel (o : TableOp) (c : Config) (told spent : Nat) :
    o.run (c.withFuel told spent) = (o.run c).withFuel told spent := by
  cases o with
  | size | drop => rfl
  | get => exact pop_withFuel fun _ _ => ite_withFuel rfl rfl
  | set | grow => exact pop₂_withFuel fun _ _ _ => ite_withFuel rfl rfl
  | fill | copy | init => exact pop₃_withFuel fun _ _ _ _ => ite_withFuel rfl rfl

theorem run_withFuel (o : Op) (c : Config) (told spent : Nat) :
    o.run (c.withFuel told spent) = (o.run c).withFuel told spent := by
  cases o with
  | nop | const | refNull | refFunc => rfl
  | drop | refIsNull => exact pop_withFuel fun _ _ => rfl
  | select => exact pop₃_withFuel fun _ _ _ _ => rfl
  | unary => exact pop_withFuel fun _ s => pushResult_withFuel _ s
  | binary => exact pop₂_withFuel fun _ _ s => pushResult_withFuel _ s
  | vector op =>
    rw [run_vector, run_vector]
    exact popMany_withFuel fun _ _ => rfl
  | var op => exact op.run_withFuel c told spent
  | memory op => exact op.run_withFuel c told spent
  | table op => exact op.run_withFuel c told spent

variable {o : Op} {c' : Config} {reason : Stop} {s : Store}

theorem fuel_of_run_next (next : o.run c = .next c') :
    c'.store.fuelSpent = c.store.fuelSpent ∧ c'.spent = c.spent := by
  have same := run_withFuel o c c.store.fuelSpent c.spent
  rw [Config.withFuel_self, next] at same
  have same := Exit.next.inj same
  exact ⟨congrArg (·.store.fuelSpent) same, congrArg (·.spent) same⟩

theorem fuel_of_run_stop (stop : o.run c = .stop reason s) : s.fuelSpent = c.store.fuelSpent := by
  have same := run_withFuel o c c.store.fuelSpent c.spent
  rw [Config.withFuel_self, stop] at same
  exact congrArg (·.fuelSpent) (Exit.stop.inj same).2

end Fuel

def Exit.All (next : Config → Prop) (stop : Stop → Store → Prop) : Exit → Prop
  | .next c => next c
  | .stop reason s => stop reason s

section All

variable {c : Config} {next : Config → Prop} {stop : Stop → Store → Prop}

theorem all_pop {go : Slot → List Slot → Exit} (stuck : stop .stuck c.store)
    (all : ∀ a s, (go a s).All next stop) : (c.pop go).All next stop := by
  unfold Config.pop
  split
  · exact all _ _
  · exact stuck

theorem all_pop₂ {go : Slot → Slot → List Slot → Exit} (stuck : stop .stuck c.store)
    (all : ∀ a b s, (go a b s).All next stop) : (c.pop₂ go).All next stop := by
  unfold Config.pop₂
  split
  · exact all _ _ _
  · exact stuck

theorem all_pop₃ {go : Slot → Slot → Slot → List Slot → Exit} (stuck : stop .stuck c.store)
    (all : ∀ a b d s, (go a b d s).All next stop) : (c.pop₃ go).All next stop := by
  unfold Config.pop₃
  split
  · exact all _ _ _ _
  · exact stuck

theorem all_popMany {count : Nat} {go : List Slot → List Slot → Exit} (stuck : stop .stuck c.store)
    (all : ∀ args s, (go args s).All next stop) : (c.popMany count go).All next stop := by
  unfold Config.popMany
  split
  · exact all _ _
  · exact stuck

theorem all_ite {P : Prop} [Decidable P] {e₁ e₂ : Exit} (all₁ : P → e₁.All next stop)
    (all₂ : ¬ P → e₂.All next stop) : (if P then e₁ else e₂).All next stop := by
  split
  · exact all₁ ‹_›
  · exact all₂ ‹_›

end All

theorem apply_ne_outOfFuel (op : Unary) (a : Slot) : op.apply a ≠ .error .outOfFuel := by
  cases op with
  | truncate source target signed =>
    simp only [Unary.apply, truncate]
    repeat' split
    all_goals simp
  | _ => simp [Unary.apply]

theorem apply₂_ne_outOfFuel (op : Binary) (a b : Slot) : op.apply a b ≠ .error .outOfFuel := by
  cases op with
  | int w op =>
    cases op <;> simp only [Binary.apply, IntBinary.apply]
    all_goals repeat' split
    all_goals simp
  | _ => simp [Binary.apply]

/-- A reason other than fuel, and a store that has not changed. -/
def Unfueled (c : Config) (reason : Stop) (s : Store) : Prop :=
  s = c.store ∧ reason ≠ .trap .outOfFuel

theorem unfueled_stuck (c : Config) : Unfueled c .stuck c.store :=
  ⟨rfl, nofun⟩

theorem unfueled_trap {c : Config} {t : Trap} (other : t ≠ .outOfFuel) :
    (c.trap t).All (fun _ => True) (Unfueled c) :=
  ⟨rfl, fun same => other (Stop.trap.inj same)⟩

theorem all_inside {P : Prop} [Decidable P] {c c' : Config} {t : Trap} (other : t ≠ .outOfFuel) :
    (if P then .next c' else c.trap t).All (fun _ => True) (Unfueled c) :=
  all_ite (fun _ => trivial) fun _ => unfueled_trap other

theorem stop_of_pushResult {c : Config} {v : Except Trap Slot} (s : List Slot)
    (other : v ≠ .error .outOfFuel) : (c.pushResult v s).All (fun _ => True) (Unfueled c) := by
  cases v with
  | ok v => trivial
  | error t => exact unfueled_trap fun same => other (congrArg Except.error same)

theorem VarOp.stop_of_run (o : VarOp) (c : Config) :
    (o.run c).All (fun _ => True) (Unfueled c) := by
  cases o with
  | localGet | globalGet => trivial
  | localSet | localTee | globalSet => exact all_pop (unfueled_stuck c) fun _ _ => trivial

theorem MemoryOp.stop_of_run (o : MemoryOp) (c : Config) :
    (o.run c).All (fun _ => True) (Unfueled c) := by
  have stuck := unfueled_stuck c
  cases o with
  | size | drop => trivial
  | grow => exact all_pop stuck fun _ _ => all_ite (fun _ => trivial) fun _ => trivial
  | load | vectorLoad => exact all_pop stuck fun _ _ => all_inside nofun
  | store | laneLoad | laneStore => exact all_pop₂ stuck fun _ _ _ => all_inside nofun
  | fill | copy | init => exact all_pop₃ stuck fun _ _ _ _ => all_inside nofun

theorem TableOp.stop_of_run (o : TableOp) (c : Config) :
    (o.run c).All (fun _ => True) (Unfueled c) := by
  have stuck := unfueled_stuck c
  cases o with
  | size | drop => trivial
  | grow => exact all_pop₂ stuck fun _ _ _ => all_ite (fun _ => trivial) fun _ => trivial
  | get => exact all_pop stuck fun _ _ => all_inside nofun
  | set => exact all_pop₂ stuck fun _ _ _ => all_inside nofun
  | fill | copy | init => exact all_pop₃ stuck fun _ _ _ _ => all_inside nofun

theorem stop_of_run (o : Op) (c : Config) : (o.run c).All (fun _ => True) (Unfueled c) := by
  have stuck := unfueled_stuck c
  cases o with
  | nop | const | refNull | refFunc => trivial
  | drop | refIsNull => exact all_pop stuck fun _ _ => trivial
  | select => exact all_pop₃ stuck fun _ _ _ _ => trivial
  | unary op => exact all_pop stuck fun a s => stop_of_pushResult s (apply_ne_outOfFuel op a)
  | binary op => exact all_pop₂ stuck fun a b s => stop_of_pushResult s (apply₂_ne_outOfFuel op a b)
  | vector op =>
    rw [run_vector]
    exact all_popMany stuck fun _ _ => trivial
  | var op => exact op.stop_of_run c
  | memory op => exact op.stop_of_run c
  | table op => exact op.stop_of_run c

end ModuleHost.Wasm
