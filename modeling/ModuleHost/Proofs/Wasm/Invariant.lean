import ModuleHost.Proofs.Wasm.Operation
import ModuleHost.Wasm.Execution

namespace ModuleHost.Wasm

def CallExit.All (done : Store → Prop) (stop : Stop → Store → Prop) : CallExit → Prop
  | .done _ s => done s
  | .stop reason s => stop reason s

def Next.All (go : Config → Prop) (stop : Stop → Store → Prop) : Next → Prop
  | .go _ _ c | .call _ _ _ c | .tail _ c | .finish c => go c
  | .stop reason s => stop reason s

/-- What is preserved while guest code runs, of the store and of the fuel that the running function
has spent, and what holds where it stops. -/
structure Invariant (p : Program) (I : Store → Nat → Prop) (E : Stop → Store → Prop) : Prop where
  op : ∀ (o : Op) c, I c.store c.spent → (o.run c).All (fun c => I c.store c.spent) E
  spend : ∀ s n k, I s n → I s (n + k)
  save : ∀ s n, I s n → I (s.withFuel n) n
  stop : ∀ reason s n, I s n → reason ≠ .trap .outOfFuel → E reason s
  exhausted : ∀ s n, I s n → p.isExhausted n = true → E (.trap .outOfFuel) (s.withFuel n)
  serve : ∀ call args s, I s s.fuelSpent → (p.serve call args s).All (fun s => I s s.fuelSpent) E

namespace Invariant

variable {p : Program} {I : Store → Nat → Prop} {E : Stop → Store → Prop}

theorem branchTo (label : Nat) (labels : List Label) {c : Config} (holds : I c.store c.spent) :
    (branchTo label labels c).All (fun c => I c.store c.spent) E := by
  unfold Wasm.branchTo
  split
  · exact holds
  · exact holds

theorem lookup_ne_outOfFuel {table type i : Nat} {s : Store} {t : Trap}
    (fails : p.lookup table type i s = .error t) : (Stop.trap t) ≠ .trap .outOfFuel := by
  unfold Program.lookup at fails
  repeat' split at fails
  all_goals cases fails
  all_goals nofun

theorem perform (inv : Invariant p I E) (i : Instr) (code : List Instr) (labels : List Label)
    {c : Config} (holds : I c.store c.spent) :
    (p.perform i code labels c).All (fun c => I c.store c.spent) E := by
  have saved : I c.save c.spent := inv.save _ _ holds
  have stuck : E .stuck c.store := inv.stop _ _ _ holds nofun
  -- Control moves code and operands only, so what it goes on with needs nothing new.
  cases i with
  | op o =>
    have step := inv.op o c holds
    simp only [Program.perform]
    generalize o.run c = result at step
    cases result with
    | next c' => exact step
    | stop reason s => exact step
  | unreachable => exact inv.stop _ _ _ saved nofun
  | block | ret | call | returnCall => exact holds
  | br => exact branchTo _ _ holds
  | loop =>
    simp only [Program.perform]
    split
    · exact inv.exhausted _ _ holds ‹_›
    · exact holds
  | ifElse =>
    simp only [Program.perform]
    split
    · exact holds
    · exact stuck
  | brIf =>
    simp only [Program.perform]
    split
    · split
      · exact holds
      · exact branchTo _ _ holds
    · exact stuck
  | brTable =>
    simp only [Program.perform]
    split
    · exact branchTo _ _ holds
    · exact stuck
  | callIndirect | returnCallIndirect =>
    simp only [Program.perform]
    split
    · split
      · exact holds
      · exact inv.stop _ _ _ saved (lookup_ne_outOfFuel ‹_›)
    · exact stuck

theorem step (inv : Invariant p I E) (code : List Instr) (labels : List Label) {c : Config}
    (holds : I c.store c.spent) :
    (p.step code labels c).All (fun c => I c.store c.spent) E := by
  unfold Program.step
  split
  · exact holds
  · exact holds
  · exact inv.perform _ _ _ (inv.spend _ _ _ holds)

section Runs

variable {enter : Func → List Slot → Store → CallExit} {body : Config → CallExit}
  {callee : Nat → List Slot → Store → CallExit}

theorem dispatch (inv : Invariant p I E)
    (enters : ∀ func args s, I s s.fuelSpent → (enter func args s).All (fun s => I s s.fuelSpent) E)
    (f : Nat) (args : List Slot) {s : Store} (holds : I s s.fuelSpent) :
    (p.dispatch enter f args s).All (fun s => I s s.fuelSpent) E := by
  unfold Program.dispatch
  split
  · exact inv.serve _ _ _ holds
  · split
    · exact enters _ _ _ holds
    · exact inv.stop _ _ _ holds nofun

theorem enterWith (inv : Invariant p I E)
    (runs : ∀ c, I c.store c.spent → (body c).All (fun s => I s s.fuelSpent) E) (func : Func)
    (args : List Slot) {s : Store} (holds : I s s.fuelSpent) :
    (p.enterWith body func args s).All (fun s => I s s.fuelSpent) E := by
  have entered := inv.spend _ _ 1 holds
  unfold Program.enterWith
  dsimp only
  split
  · exact inv.exhausted _ _ entered ‹_›
  · exact runs _ entered

theorem callFrom (inv : Invariant p I E)
    (calls : ∀ f args s, I s s.fuelSpent → (callee f args s).All (fun s => I s s.fuelSpent) E)
    (f : Nat) {c : Config} (holds : I c.store c.spent) :
    (p.callFrom callee f c).All (fun c => I c.store c.spent) E := by
  have called := calls f (p.argsOf f c) c.save (inv.save _ _ holds)
  unfold Program.callFrom
  dsimp only
  split
  · rename_i stopped
    rwa [stopped] at called
  · rename_i returned
    rwa [returned] at called

theorem run (inv : Invariant p I E)
    (calls : ∀ f args s, I s s.fuelSpent → (callee f args s).All (fun s => I s s.fuelSpent) E)
    (steps : Nat) (code : List Instr) (labels : List Label) {c : Config}
    (holds : I c.store c.spent) :
    (p.run callee steps code labels c).All (fun s => I s s.fuelSpent) E := by
  induction steps generalizing code labels c with
  | zero => exact inv.stop _ _ _ holds nofun
  | succ steps ih =>
    have step := inv.step code labels holds
    unfold Program.run
    split
    · rename_i next
      rw [next] at step
      exact ih _ _ step
    · rename_i f _ _ _ next
      rw [next] at step
      have called := inv.callFrom calls f step
      split
      · rename_i returned
        rw [returned] at called
        exact ih _ _ called
      · rename_i stopped
        rwa [stopped] at called
    · rename_i f _ next
      rw [next] at step
      -- The function that takes over has the steps that are left.
      exact inv.dispatch (fun _ _ _ => inv.enterWith (fun _ => ih _ _) _ _) f _ (inv.save _ _ step)
    · rename_i next
      rw [next] at step
      exact inv.save _ _ step
    · rename_i next
      rwa [next] at step

theorem callAt (inv : Invariant p I E) (depth f : Nat) (args : List Slot) {s : Store}
    (holds : I s s.fuelSpent) : (p.callAt depth f args s).All (fun s => I s s.fuelSpent) E := by
  induction depth generalizing f args s with
  | zero =>
    refine inv.dispatch (fun _ _ _ holds => ?_) f args holds
    exact inv.stop _ _ _ holds nofun
  | succ depth ih =>
    refine inv.dispatch (fun _ _ _ => inv.enterWith (fun _ => ?_) _ _) f args holds
    exact inv.run (fun f args _ => ih f args) _ _ _

end Runs

theorem call (inv : Invariant p I E) (f : Nat) (args : List Slot) {s : Store}
    (holds : I s s.fuelSpent) : (p.call f args s).All (fun s => I s s.fuelSpent) E := by
  have called := inv.callAt p.maxDepth f args.reverse holds
  unfold Program.call
  split
  · rename_i stopped
    rwa [stopped] at called
  · rename_i returned
    rwa [returned] at called

end Invariant

theorem invariant_spends (p : Program) (start : Nat) :
    Invariant p (fun s spent => start ≤ s.fuelSpent ∧ s.fuelSpent ≤ spent) fun reason s =>
      start ≤ s.fuelSpent ∧ (reason = .trap .outOfFuel → p.isExhausted s.fuelSpent = true) where
  op o c holds := by
    have stopped := stop_of_run o c
    cases run : o.run c with
    | next c' =>
      obtain ⟨told, spent⟩ := fuel_of_run_next run
      show start ≤ c'.store.fuelSpent ∧ c'.store.fuelSpent ≤ c'.spent
      rwa [told, spent]
    | stop reason s =>
      rw [run] at stopped
      obtain ⟨rfl, fine⟩ := stopped
      exact ⟨holds.1, fun empty => absurd empty fine⟩
  spend _ _ _ := fun ⟨low, high⟩ => ⟨low, Nat.le_add_right_of_le high⟩
  save _ _ := fun ⟨low, high⟩ => ⟨low.trans high, le_refl _⟩
  stop _ _ _ := fun ⟨low, _⟩ fine => ⟨low, fun empty => absurd empty fine⟩
  exhausted _ _ := fun ⟨low, high⟩ empty => ⟨low.trans high, fun _ => empty⟩
  serve call args s := by
    rintro ⟨low, -⟩
    unfold Program.serve
    split
    · exact ⟨low, nofun⟩
    · split
      · exact ⟨low, le_refl _⟩
      · exact ⟨low, nofun⟩

theorem spends_call (p : Program) (f : Nat) (args : List Slot) (s : Store) :
    (p.call f args s).All (fun s' => s.fuelSpent ≤ s'.fuelSpent) fun reason s' =>
      s.fuelSpent ≤ s'.fuelSpent ∧
        (reason = .trap .outOfFuel → p.isExhausted s'.fuelSpent = true) := by
  have spends := (invariant_spends p s.fuelSpent).call f args ⟨le_refl _, le_refl _⟩
  cases called : p.call f args s with
  | done results s' =>
    rw [called] at spends
    exact spends.1
  | stop reason s' =>
    rw [called] at spends
    exact spends

end ModuleHost.Wasm
