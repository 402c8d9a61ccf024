import ModuleHost.Proofs.Wasm.Invariant
import ModuleHost.Proofs.Wasm.Typing

/-!
# Types of code

Code that validation lets pass keeps to the types that it has followed: where a step continues, the
operands are of the types that are known there (`typed_of_step`). This rests on the blocks around
the code, each of which is left with operands that what comes after it has been checked with
(`Continues`).
-/

namespace ModuleHost.Wasm

open Validation (Context checkInstr checkAll checkFunc find_eq_ok checkTargets leaveTo)
open Validation.Operands

/-! ## Checked code -/

def Checks (c : Context) (code : List Instr) (types results : List ValType) : Prop :=
  ∃ s, checkAll c code (known types) = .ok s ∧ s.finish results = .ok ()

def Validation.Context.within (c : Context) (targets : List (List ValType)) : Context :=
  { c with labels := targets }

/-- Code inside blocks goes on with operands of the given types, up to the end of the function: each
block has its operands from outside put aside, and what comes after it, or again, goes on with them
and with those that leaving it brings. -/
inductive Continues (c : Context) :
    List (List ValType) → List Instr → List Label → List ValType → Prop
  | body {code : List Instr} {types : List ValType}
    (checked : Checks (c.within [c.results]) code types c.results) (sized : SizedCode code) :
    Continues c [c.results] code [] types
  | block {targets : List (List ValType)} {code again : List Instr} {labels : List Label}
    {types target results outside : List ValType} {l : Label}
    (checked : Checks (c.within (target :: targets)) code types results) (sized : SizedCode code)
    (count : l.results = results.length) (aside : Fits outside l.outside)
    (leaves : Continues c targets l.rest labels (results.reverse ++ outside))
    (branch : ∀ stack, l.branch stack = (again, takeOperands target.length stack ++ l.outside))
    (branches : Continues c targets again labels (target.reverse ++ outside)) :
    Continues c (target :: targets) code (l :: labels) types

/-- A program whose functions validation lets pass in a context that has their types. -/
structure Program.Checked (p : Program) (c : Context) : Prop where
  types : c.types = p.module.types
  funcs : ∀ (f : Nat) (t : FuncType), c.funcs[f]? = some t → p.funcType f = t
  references : ∀ type ∈ c.tables, type.element.isReference = true
  host : ∀ (f : Nat) (call : Wasi.Call), p.hostCalls[f]? = some call →
    call.type.results = [] ∨ call.type.results = [.i32]
  bodies : ∀ func ∈ p.module.funcs, checkFunc c func = .ok () ∧ SizedCode func.body

theorem Program.Checked.inside {p : Program} {c : Context} {locals : Array ValType}
    {labels : List (List ValType)} {results : List ValType} (checked : p.Checked c) :
    p.Checked { c with locals, labels, results } :=
  ⟨checked.types, checked.funcs, checked.references, checked.host, checked.bodies⟩

/-! ## Operands -/

section

variable {as us : List ValType} {vs : List Slot}

theorem Fits.takeOperands (fits : Fits (as ++ us) vs) :
    Fits as (takeOperands as.length vs) ∧ Fits us (vs.drop as.length) := by
  induction as generalizing vs with
  | nil => exact ⟨.nil, fits⟩
  | cons t as ih =>
    cases fits with
    | cons holds rest =>
      obtain ⟨front, back⟩ := ih rest
      exact ⟨.cons holds front, back⟩

theorem Fits.holds_headD {t : ValType} (fits : Fits (t :: us) vs) : t.Holds (vs.headD 0) := by
  cases fits with
  | cons holds rest => exact holds

theorem takeOperands_eq_take {count : Nat} (enough : count ≤ vs.length) :
    Wasm.takeOperands count vs = vs.take count := by
  induction count generalizing vs with
  | zero => rfl
  | succ count ih =>
    cases vs with
    | nil => cases enough
    | cons v vs => exact congrArg (v :: ·) (ih (Nat.le_of_succ_le_succ enough))

theorem Fits.reverse_takeOperands {types : List ValType} (fits : Fits (types.reverse ++ us) vs) :
    Fits types.reverse (Wasm.takeOperands types.length vs) ∧ Fits us (vs.drop types.length) := by
  have taken := Fits.takeOperands fits
  rwa [List.length_reverse] at taken

end

/-! ## Blocks -/

def Next.Typed (p : Program) (c : Context) : Next → Prop
  | .go code labels x => ∃ targets types, Continues c targets code labels types ∧ x.Typed c types
  | .call f code labels x => ∃ targets types,
    Continues c targets code labels ((p.funcType f).results.reverse ++ types) ∧
      x.Typed c ((p.funcType f).params.reverse ++ types)
  | .tail f x => (p.funcType f).results = c.results ∧
    ∃ types, x.Typed c ((p.funcType f).params.reverse ++ types)
  | .finish x => ∃ types, x.Typed c (c.results.reverse ++ types)
  | .stop _ s => s.Typed c.globals

variable {p : Program} {c : Context} {targets : List (List ValType)} {code : List Instr}
  {labels : List Label} {types us : List ValType} {x : Config}

theorem Continues.branchTo {label : Nat} (continues : Continues c targets code labels us)
    (target : targets[label]? = some types) {below : List ValType}
    (typed : x.Typed c (types.reverse ++ below)) : (branchTo label labels x).Typed p c := by
  induction label generalizing targets code labels us with
  | zero =>
    cases continues with
    | body =>
      cases target
      exact ⟨below, typed⟩
    | block checked sized count aside leaves branch branches =>
      cases target
      simp only [Wasm.branchTo, List.drop_zero, branch]
      have taken := (Fits.reverse_takeOperands typed.stack).1
      exact ⟨_, _, branches, typed.with_stack (List.rel_append taken aside)⟩
  | succ label ih =>
    cases continues with
    | body => cases target
    | block checked sized count aside leaves branch branches => exact ih leaves target

theorem Continues.first {i : Instr} (continues : Continues c targets (i :: code) labels types) :
    i.Sized ∧ ∃ s, checkInstr (c.within targets) i (known types) = .ok s ∧
      ∀ us, s = known us → Continues c targets code labels us := by
  cases continues with
  | body checked sized =>
    obtain ⟨s', checks, ends⟩ := checked
    simp only [checkAll, bind_eq_ok] at checks
    obtain ⟨s, first, rest⟩ := checks
    exact ⟨sized.1, s, first, fun us same => .body ⟨s', same ▸ rest, ends⟩ sized.2⟩
  | block checked sized count aside leaves branch branches =>
    obtain ⟨s', checks, ends⟩ := checked
    simp only [checkAll, bind_eq_ok] at checks
    obtain ⟨s, first, rest⟩ := checks
    exact ⟨sized.1, s, first, fun us same =>
      .block ⟨s', same ▸ rest, ends⟩ sized.2 count aside leaves branch branches⟩

theorem blockType_eq_some {type : BlockType} {t : FuncType} (same : c.types = p.module.types)
    (known : c.blockType type = .ok t) : p.module.blockType type = some t := by
  cases type with
  | empty =>
    cases known
    rfl
  | result u =>
    simp only [Context.blockType, bind_eq_ok] at known
    obtain ⟨_, -, known⟩ := known
    cases known
    rfl
  | func i =>
    rw [Module.blockType, ← same]
    exact find_eq_ok.mp known

theorem label_eq_ok {label : Nat} : c.label label = .ok types ↔ c.labels[label]? = some types := by
  unfold Context.label
  cases c.labels[label]? <;> simp

theorem leaveTo_known {t : FuncType} {s : Validation.Operands}
    (leaves : leaveTo c t (known types) = .ok s) :
    t.results = c.results ∧ ∃ us, types = t.params.reverse ++ us := by
  unfold leaveTo at leaves
  split at leaves
  · simp only [bind_eq_ok, popAll_known] at leaves
    obtain ⟨_, ⟨us, rfl, -⟩, -⟩ := leaves
    exact ⟨‹_›, us, rfl⟩
  · cases leaves

theorem funcType_of_lookup {table type index f : Nat} {t : FuncType} {s : Store}
    (same : c.types = p.module.types) (known : c.types[type]? = some t)
    (looked : p.lookup table type index s = .ok f) : p.funcType f = t := by
  unfold Program.lookup at looked
  rw [← same, known] at looked
  repeat' split at looked
  all_goals cases looked
  exact Option.some.inj ‹_›

theorem typed_of_enter {t : FuncType} {type : BlockType} {body : List Instr}
    {restart : Option Instr} {target : List ValType} {stack : List Slot} (checked : p.Checked c)
    (typed : x.Typed c types) (known : c.blockType type = .ok t)
    (inner : Checks (c.within (target :: targets)) body t.params.reverse t.results)
    (sized : SizedCode body) (fits : Fits (t.params.reverse ++ us) stack)
    (leaves : Continues c targets code labels (t.results.reverse ++ us))
    (branches : restart = none ∧ target = t.results ∨ ∃ loop, restart = some loop ∧
      target = t.params ∧ Continues c targets (loop :: code) labels (t.params.reverse ++ us)) :
    (p.enter type body restart code labels stack x).Typed p c := by
  have arity : p.arity type = (t.params.length, t.results.length) := by
    rw [Program.arity, blockType_eq_some checked.types known]
  obtain ⟨params, outside⟩ := Fits.reverse_takeOperands fits
  unfold Program.enter
  rw [arity]
  refine ⟨target :: targets, _, ?_, typed.with_stack params⟩
  obtain ⟨rfl, rfl⟩ | ⟨loop, rfl, rfl, goes⟩ := branches
  · exact .block inner sized rfl outside leaves (fun _ => rfl) leaves
  · exact .block inner sized rfl outside leaves (fun _ => rfl) goes

theorem checkTargets_known {arity label : Nat} {names : List Nat}
    (checks : checkTargets c arity (known types) names = .ok ()) (named : label ∈ names) :
    ∃ target below, c.labels[label]? = some target ∧ types = target.reverse ++ below := by
  induction names with
  | nil => cases named
  | cons name names ih =>
    simp only [checkTargets, bind_eq_ok, label_eq_ok] at checks
    obtain ⟨target, found, checks⟩ := checks
    split at checks
    · cases checks
    · simp only [bind_eq_ok, popAll_known] at checks
      obtain ⟨_, ⟨below, same, -⟩, rest⟩ := checks
      rcases List.mem_cons.mp named with rfl | later
      · exact ⟨target, below, found, same⟩
      · exact ih rest later

/-! ## Instructions -/

section

variable (checked : p.Checked c) (typed : x.Typed c types)

include checked typed

theorem typed_of_op {o : Op} (continues : Continues c targets (.op o :: code) labels types) :
    (p.perform (.op o) code labels x).Typed p c := by
  obtain ⟨sized, s, checks, goes⟩ := continues.first
  obtain ⟨us, same, runs⟩ := typed_of_run (c := c.within targets) checks sized
    checked.references ⟨typed.stack, typed.locals, typed.store⟩
  simp only [Program.perform]
  cases run : o.run x with
  | next x' =>
    rw [run] at runs
    exact ⟨targets, us, goes us same, runs.stack, runs.locals, runs.store⟩
  | stop reason s =>
    rw [run] at runs
    exact runs

theorem typed_of_block {type : BlockType} {body : List Instr}
    (continues : Continues c targets (.block type body :: code) labels types) :
    (p.perform (.block type body) code labels x).Typed p c := by
  obtain ⟨sized, s, checks, goes⟩ := continues.first
  simp only [checkInstr, bind_eq_ok, popAll_known] at checks
  obtain ⟨t, known, _, ⟨us, rfl, rfl⟩, inner, body, _, ends, same⟩ := checks
  cases same
  have leaves := goes _ (pushAll_known t.results us)
  exact typed_of_enter checked typed known ⟨inner, body, ends⟩ sized typed.stack leaves
    (.inl ⟨rfl, rfl⟩)

theorem typed_of_loop {type : BlockType} {body : List Instr}
    (continues : Continues c targets (.loop type body :: code) labels types) :
    (p.perform (.loop type body) code labels x).Typed p c := by
  obtain ⟨sized, s, checks, goes⟩ := continues.first
  simp only [checkInstr, bind_eq_ok, popAll_known] at checks
  obtain ⟨t, known, _, ⟨us, rfl, rfl⟩, inner, body, _, ends, same⟩ := checks
  cases same
  simp only [Program.perform]
  split
  · exact typed.store.withFuel _
  · have leaves := goes _ (pushAll_known t.results us)
    -- A branch to a loop goes on with the loop itself, as the code does here.
    exact typed_of_enter checked typed known ⟨inner, body, ends⟩ sized typed.stack leaves
      (.inr ⟨_, rfl, rfl, continues⟩)

theorem typed_of_ifElse {type : BlockType} {yes no : List Instr}
    (continues : Continues c targets (.ifElse type yes no :: code) labels types) :
    (p.perform (.ifElse type yes no) code labels x).Typed p c := by
  obtain ⟨sized, s, checks, goes⟩ := continues.first
  simp only [checkInstr, bind_eq_ok, pop_known] at checks
  obtain ⟨t, known, _, ⟨_, rfl, rfl⟩, _, pops, thens, yes, _, ends, elses, no, _, ends', same⟩ :=
    checks
  obtain ⟨us, rfl, rfl⟩ := popAll_known.mp pops
  cases same
  have leaves := goes _ (pushAll_known t.results us)
  simp only [Program.perform]
  cases stack : x.stack with
  | nil => exact typed.store
  | cons condition stack =>
    obtain _ | ⟨-, fits⟩ := stack ▸ typed.stack
    dsimp only
    split
    · exact typed_of_enter checked typed known ⟨elses, no, ends'⟩ sized.2 fits leaves
        (.inl ⟨rfl, rfl⟩)
    · exact typed_of_enter checked typed known ⟨thens, yes, ends⟩ sized.1 fits leaves
        (.inl ⟨rfl, rfl⟩)

omit checked in
theorem typed_of_brIf {label : Nat}
    (continues : Continues c targets (.brIf label :: code) labels types) :
    (p.perform (.brIf label) code labels x).Typed p c := by
  obtain ⟨-, s, checks, goes⟩ := continues.first
  simp only [checkInstr, bind_eq_ok, label_eq_ok, pop_known] at checks
  obtain ⟨target, found, _, ⟨_, rfl, rfl⟩, replaces⟩ := checks
  obtain ⟨us, rfl, same⟩ := replace_known.mp replaces
  simp only [Program.perform]
  cases stack : x.stack with
  | nil => exact typed.store
  | cons condition stack =>
    obtain _ | ⟨-, fits⟩ := stack ▸ typed.stack
    dsimp only
    split
    · exact ⟨targets, _, goes _ same, typed.with_stack fits⟩
    · exact continues.branchTo found (typed.with_stack fits)

omit checked in
theorem typed_of_brTable {names : List Nat} {otherwise : Nat}
    (continues : Continues c targets (.brTable names otherwise :: code) labels types) :
    (p.perform (.brTable names otherwise) code labels x).Typed p c := by
  obtain ⟨-, s, checks, -⟩ := continues.first
  simp only [checkInstr, bind_eq_ok, label_eq_ok, pop_known] at checks
  obtain ⟨target, found, _, ⟨_, rfl, rfl⟩, _, fit, _, pops, -⟩ := checks
  obtain ⟨us, rfl, -⟩ := popAll_known.mp pops
  simp only [Program.perform]
  cases stack : x.stack with
  | nil => exact typed.store
  | cons index stack =>
    obtain _ | ⟨-, fits⟩ := stack ▸ typed.stack
    dsimp only
    rw [List.getD_eq_getElem?_getD]
    cases named : names[index]? with
    | none => exact continues.branchTo found (typed.with_stack fits)
    | some label =>
      obtain ⟨target, below, found, same⟩ := checkTargets_known fit (List.mem_of_getElem? named)
      exact continues.branchTo found (typed.with_stack (same ▸ fits))

theorem typed_of_callIndirect {table type : Nat}
    (continues : Continues c targets (.callIndirect table type :: code) labels types) :
    (p.perform (.callIndirect table type) code labels x).Typed p c := by
  obtain ⟨-, s, checks, goes⟩ := continues.first
  simp only [checkInstr, bind_eq_ok, find_eq_ok] at checks
  obtain ⟨_, -, t, found, checks⟩ := checks
  split at checks
  · simp only [bind_eq_ok, pop_known] at checks
    obtain ⟨_, ⟨_, rfl, rfl⟩, replaces⟩ := checks
    obtain ⟨us, rfl, same⟩ := replace_known.mp replaces
    simp only [Program.perform]
    cases stack : x.stack with
    | nil => exact typed.store
    | cons index stack =>
      obtain _ | ⟨-, fits⟩ := stack ▸ typed.stack
      dsimp only
      cases looked : p.lookup table type index x.store with
      | error t => exact typed.store.withFuel _
      | ok f =>
        obtain rfl := funcType_of_lookup checked.types found looked
        exact ⟨targets, us, goes _ same, typed.with_stack fits⟩
  · cases checks

theorem typed_of_returnCallIndirect {table type : Nat}
    (continues : Continues c targets (.returnCallIndirect table type :: code) labels types) :
    (p.perform (.returnCallIndirect table type) code labels x).Typed p c := by
  obtain ⟨-, s, checks, -⟩ := continues.first
  simp only [checkInstr, bind_eq_ok, find_eq_ok] at checks
  obtain ⟨_, -, t, found, checks⟩ := checks
  split at checks
  · simp only [bind_eq_ok, pop_known] at checks
    obtain ⟨_, ⟨_, rfl, rfl⟩, leaves⟩ := checks
    obtain ⟨results, us, rfl⟩ := leaveTo_known leaves
    simp only [Program.perform]
    cases stack : x.stack with
    | nil => exact typed.store
    | cons index stack =>
      obtain _ | ⟨-, fits⟩ := stack ▸ typed.stack
      dsimp only
      cases looked : p.lookup table type index x.store with
      | error t => exact typed.store.withFuel _
      | ok f =>
        obtain rfl := funcType_of_lookup checked.types found looked
        exact ⟨results, us, typed.with_stack fits⟩
  · cases checks

theorem typed_of_perform {i : Instr} (continues : Continues c targets (i :: code) labels types) :
    (p.perform i code labels x).Typed p c := by
  -- Validation has let the instruction pass with operands of `types`, and says what it leaves.
  cases i with
  | op o => exact typed_of_op checked typed continues
  | unreachable => exact typed.store.withFuel _
  | block type body => exact typed_of_block checked typed continues
  | loop type body => exact typed_of_loop checked typed continues
  | ifElse type yes no => exact typed_of_ifElse checked typed continues
  | br label =>
    obtain ⟨-, s, checks, -⟩ := continues.first
    simp only [checkInstr, bind_eq_ok, label_eq_ok, popAll_known] at checks
    obtain ⟨target, found, _, ⟨us, rfl, -⟩, -⟩ := checks
    exact continues.branchTo found typed
  | brIf label => exact typed_of_brIf typed continues
  | brTable names otherwise => exact typed_of_brTable typed continues
  | ret =>
    obtain ⟨-, s, checks, -⟩ := continues.first
    simp only [checkInstr, bind_eq_ok, popAll_known] at checks
    obtain ⟨_, ⟨us, rfl, -⟩, -⟩ := checks
    exact ⟨us, typed⟩
  | call f =>
    obtain ⟨-, s, checks, goes⟩ := continues.first
    simp only [checkInstr, bind_eq_ok, find_eq_ok, replace_known] at checks
    obtain ⟨t, found, us, rfl, same⟩ := checks
    obtain rfl := checked.funcs f t found
    exact ⟨targets, us, goes _ same, typed⟩
  | callIndirect table type => exact typed_of_callIndirect checked typed continues
  | returnCall f =>
    obtain ⟨-, s, checks, -⟩ := continues.first
    simp only [checkInstr, bind_eq_ok, find_eq_ok] at checks
    obtain ⟨t, found, leaves⟩ := checks
    obtain rfl := checked.funcs f t found
    obtain ⟨results, us, rfl⟩ := leaveTo_known leaves
    exact ⟨results, us, typed⟩
  | returnCallIndirect table type => exact typed_of_returnCallIndirect checked typed continues

end

/-! ## Steps -/

theorem typed_of_step (checked : p.Checked c) (continues : Continues c targets code labels types)
    (typed : x.Typed c types) : (p.step code labels x).Typed p c := by
  cases code with
  | cons i code =>
    have paid : Config.Typed c types { x with spent := x.spent + i.cost } :=
      ⟨typed.stack, typed.locals, typed.store⟩
    exact typed_of_perform checked paid continues
  | nil =>
    cases continues with
    | body ends sized =>
      obtain ⟨_, same, ends⟩ := ends
      cases same
      obtain rfl := finish_known.mp ends
      exact ⟨[], (List.append_nil c.results.reverse).symm ▸ typed⟩
    | block ends sized count aside leaves branch branches =>
      rename_i results outside l
      obtain ⟨_, same, ends⟩ := ends
      cases same
      obtain rfl := finish_known.mp ends
      have fits : Fits (results.reverse ++ []) x.stack :=
        (List.append_nil results.reverse).symm ▸ typed.stack
      have taken := (Fits.reverse_takeOperands fits).1
      rw [← count] at taken
      exact ⟨_, _, leaves, typed.with_stack (List.rel_append taken aside)⟩

end ModuleHost.Wasm
