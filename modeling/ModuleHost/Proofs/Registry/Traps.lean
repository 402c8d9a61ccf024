import ModuleHost.Proofs.Instance.Traps
import ModuleHost.Proofs.Registry.Creation

namespace ModuleHost.Registry

open Wasm (Trap)
open Instance (EndedByLimit)

variable {r r' : Registry} {h : Handle} {i : Instance}

/-- After different calls, an instance differs in nothing but fuel, and neither do its answers until
fuel runs out. -/
structure AgreeAfter (r r' : Registry) (h : Handle) : Prop where
  stores : ∃ i told, r'.get? h = some i ∧
    r.get? h = some { i with store := i.store.withFuel told }
  answers : ∀ ops, .failure .fuelExhausted ∉ (r.trace (opsOn h ops)).map Prod.snd →
    (r.trace (opsOn h ops)).map (·.2.withoutFuel) =
      (r'.trace (opsOn h ops)).map (·.2.withoutFuel)

/-- An instance has a store, which is what is read from its memory and what its functions load
from. -/
structure Shows (r : Registry) (h : Handle) (i : Instance) (s : Wasm.Store) : Prop where
  live : ∃ told, r.get? h = some { i with store := s.withFuel told }
  reads : ∀ offset length bytes, r.readBytes h offset length = .ok bytes ↔
    ∃ m, i.memoryIndex = .ok m ∧ (s.memory m).contains offset length = true ∧
      bytes = (s.memory m).read offset length
  loads : ∀ interface name n kind type count signed arg a,
    i.Loads (qualify interface name) n kind type count signed arg →
    (s.memory arg.memory).contains (a.toUInt32.toNat + arg.offset) count = true →
    EndedByLimit (r.call h interface name [.i32 a]).1 ∨
      (r.call h interface name [.i32 a]).1 = .ok [.ofBits kind (Wasm.loaded type count signed
        ((s.memory arg.memory).readNat (a.toUInt32.toNat + arg.offset) count))]

theorem get?_call {interface : Option String} {name : String} {args : List Value}
    (live : r.get? h = some i) :
    (r.call h interface name args).2.get? h = some (i.call interface name args).2 := by
  rw [call_of_live live, get?_set, if_pos rfl]

theorem agreeAfter_of_late {k : Nat} (live : r.get? h = some (i.late i.program.budget k))
    (live' : r'.get? h = some i) : r.AgreeAfter r' h := by
  refine ⟨⟨i, i.store.fuelSpent + k, live', live⟩, fun ops fine => ?_⟩
  obtain ⟨answers, -⟩ := run_opsOn live ops
  obtain ⟨answers', -⟩ := run_opsOn live' ops
  have tighter : Instance.Tighter i.program.budget k i.program :=
    fun _ empty => Wasm.Program.isExhausted_mono empty (Nat.le_add_right _ _)
  rw [answers] at fine
  obtain ⟨same, -⟩ := Instance.trace_late tighter ops fine
  rw [← answers, ← answers', List.map_map, List.map_map] at same
  exact same

theorem shows_of_live {s : Wasm.Store} {told : Nat}
    (live : r.get? h = some { i with store := s.withFuel told }) : r.Shows h i s where
  live := ⟨told, live⟩
  reads offset length bytes := by
    rw [readBytes, get_eq_ok.mpr live]
    exact Instance.readBytes_eq_ok
  loads interface name n kind type count signed arg a loads inside := by
    rw [call_of_live live]
    exact Instance.call_loads (loads.set_store (s.withFuel told)) inside

theorem trap_keeps_effects (live : r.get? h = some i) :
    (∀ interface interface' f g a b args results,
      i.Forwards (qualify interface f) (qualify interface' g) a b →
      (∀ t ∈ (i.program.funcType a).results, t.isReference = false) →
      (r.call h interface' g args).1 = .ok results →
      ¬ EndedByLimit (r.call h interface f args).1 →
      (r.call h interface f args).1 =
          .error (.trap Trap.unreachableCodeReached.message (some "UnreachableCodeReached")) ∧
        (r.call h interface f args).2.AgreeAfter (r.call h interface' g args).2 h) ∧
    ∀ interface name args message code,
      (r.call h interface name args).1 = .error (.trap message (some code)) →
      ∃ n signature t s, i.resolve (qualify interface name) = .ok (n, signature) ∧
        message = Trap.message t ∧ code = Trap.code t ∧
        i.program.TrapsWith n (args.map Value.bits) i.store t s ∧
        (r.call h interface name args).2.Shows h i s := by
  constructor
  -- After the trap the instance is that of the callee, late by the fuel that forwarding costs.
  · intro interface interface' f g a b args results forwards numbers works unlimited
    rw [call_of_live live] at works unlimited
    rcases Instance.call_forwards forwards numbers works with limited | traps
    · exact absurd limited unlimited
    · have program : (i.call interface' g args).2.program = i.program := by
        obtain ⟨store, after, -⟩ := i.call_spends interface' g args
        rw [after]
      refine ⟨by rw [call_of_live live, traps]; rfl, ?_⟩
      refine agreeAfter_of_late (k := args.length + 2) ?_ (get?_call live)
      rw [get?_call live, traps, program]
  · intro interface name args message code fails
    have trapped : (i.call interface name args).1 = .error (.trap message (some code)) := by
      rwa [call_of_live live] at fails
    obtain ⟨n, signature, t, s, told, resolves, text, label, traps, after⟩ :=
      Instance.trapsWith_of_call trapped
    have live' : (r.call h interface name args).2.get? h =
        some { i with store := s.withFuel told } := by
      rw [get?_call live, after]
    exact ⟨n, signature, t, s, resolves, text, label, traps, shows_of_live live'⟩

def writing (results : List Wasm.ValType) : GuestModule where
  module := {
    types := #[⟨[.i32], []⟩, ⟨[.i32], results⟩, ⟨[.i32], [.i32]⟩], imports := []
    funcs := #[⟨0, [], [.op (.const .i32 0), .op (.var (.localGet 0)),
        .op (.memory (.store .i32 4 ⟨0, 2, 0⟩))]⟩,
      ⟨1, [], Wasm.forwardTo 0 1 []⟩,
      ⟨2, [], [.op (.var (.localGet 0)), .op (.memory (.load .i32 4 false ⟨0, 2, 0⟩))]⟩]
    tables := #[], memories := #[⟨1, none⟩], globals := #[]
    exports := [⟨"memory", .memory 0⟩, ⟨"put", .func 0⟩, ⟨"put_and_trap", .func 1⟩,
      ⟨"take", .func 2⟩]
    start := none, elems := #[], dataCount := none, datas := #[] }
  fingerprint := ""

theorem trap_keeps_effects_writing : ∃ r₀ r i, create {} = .ok r₀ ∧
    (Source.ofModule (writing [])).create r₀ none = .ok (1, r) ∧ r.get? 1 = some i ∧
    i.Forwards "put_and_trap" "put" 1 0 ∧ i.Loads "take" 2 .i32 .i32 4 false ⟨0, 2, 0⟩ ∧
    (r.call 1 none "put" [.i32 7]).1 = .ok [] ∧
    ¬ EndedByLimit (r.call 1 none "put_and_trap" [.i32 7]).1 ∧
    let r' := (r.call 1 none "put_and_trap" [.i32 7]).2
    r'.AgreeAfter (r.call 1 none "put" [.i32 7]).2 1 ∧ (∃ s, r'.Shows 1 i s) ∧
      r'.readBytes 1 0 4 = .ok [7, 0, 0, 0] := by
  have runs : ∃ r₀ r i, create {} = .ok r₀ ∧
      (Source.ofModule (writing [])).create r₀ none = .ok (1, r) ∧ r.get? 1 = some i ∧
      i.Forwards "put_and_trap" "put" 1 0 ∧ i.Loads "take" 2 .i32 .i32 4 false ⟨0, 2, 0⟩ ∧
      (i.program.funcType 1).results = [] ∧ (r.call 1 none "put" [.i32 7]).1 = .ok [] ∧
      (r.call 1 none "put_and_trap" [.i32 7]).1 =
        .error (.trap Trap.unreachableCodeReached.message (some "UnreachableCodeReached")) ∧
      (r.call 1 none "put_and_trap" [.i32 7]).2.readBytes 1 0 4 = .ok [7, 0, 0, 0] :=
    ⟨_, _, _, rfl, rfl, rfl, ⟨rfl, rfl, rfl, rfl, _, _, ⟨rfl, rfl⟩, rfl⟩,
      ⟨rfl, rfl, rfl, _, ⟨rfl, rfl⟩, rfl⟩, rfl, rfl, rfl, rfl⟩
  obtain ⟨r₀, r, i, created, made, live, forwards, loads, empty, works, traps, reads⟩ := runs
  have unlimited : ¬ EndedByLimit (r.call 1 none "put_and_trap" [.i32 7]).1 := by
    rw [traps]
    rintro (same | same)
    · cases same
    · have codes := (Failure.trap.inj (Except.error.inj same)).2
      exact absurd codes (by decide)
  obtain ⟨forward, trapped⟩ := trap_keeps_effects live
  obtain ⟨-, agree⟩ := forward none none "put_and_trap" "put" 1 0 [.i32 7] [] forwards
    (by simp [empty]) works unlimited
  obtain ⟨n, signature, t, s, -, -, -, -, shown⟩ := trapped none "put_and_trap" [.i32 7] _ _ traps
  exact ⟨r₀, r, i, created, made, live, forwards, loads, works, unlimited, agree, ⟨s, shown⟩, reads⟩

def drawing : GuestModule where
  module := {
    types := #[⟨[.i32, .i32], [.i32]⟩, ⟨[], []⟩]
    imports := [⟨Wasi.moduleName, "random_get", .func 0⟩]
    funcs := #[⟨1, [], [.op (.const .i32 0), .op (.const .i32 1), .call 0, .op .drop]⟩,
      ⟨1, [], Wasm.forwardTo 1 0 []⟩]
    tables := #[], memories := #[⟨1, none⟩], globals := #[]
    exports := [⟨"memory", .memory 0⟩, ⟨"draw", .func 1⟩, ⟨"draw_and_trap", .func 2⟩]
    start := none, elems := #[], dataCount := none, datas := #[] }
  fingerprint := ""

@[reducible]
def constantWorld (b : UInt8) : Runtime :=
  { Runtime.plain with outside := { Wasi.Outside.still with random := fun _ _ => b } }

def Draws (b : UInt8) : Prop :=
  ∃ r₀ r i, @create (constantWorld b) { engine := { wasi := true } } = .ok r₀ ∧
    (Source.ofModule drawing).create r₀ none = .ok (1, r) ∧ r.get? 1 = some i ∧
    i.Forwards "draw_and_trap" "draw" 2 1 ∧ (r.call 1 none "draw" []).1 = .ok [] ∧
    (r.call 1 none "draw" []).2.readBytes 1 0 1 = .ok [b] ∧
    (r.call 1 none "draw_and_trap" []).1 =
      .error (.trap Trap.unreachableCodeReached.message (some "UnreachableCodeReached")) ∧
    (r.call 1 none "draw_and_trap" []).2.readBytes 1 0 1 = .ok [b]

/-- A function with a reference among its results is not called, whatever it would do; and where the
world outside answers otherwise, functions do otherwise. -/
theorem trap_keeps_effects_exceptions :
    (∃ r₀ r i, create {} = .ok r₀ ∧
      (Source.ofModule (writing [.funcref])).create r₀ none = .ok (1, r) ∧ r.get? 1 = some i ∧
      i.Forwards "put_and_trap" "put" 1 0 ∧ (r.call 1 none "put" [.i32 7]).1 = .ok [] ∧
      (r.call 1 none "put_and_trap" [.i32 7]).1 =
        .error (.unsupportedType "put_and_trap" "(ref null func)") ∧
      (r.call 1 none "put" [.i32 7]).2.readBytes 1 0 4 = .ok [7, 0, 0, 0] ∧
      (r.call 1 none "put_and_trap" [.i32 7]).2.readBytes 1 0 4 = .ok [0, 0, 0, 0]) ∧
    Draws 1 ∧ Draws 2 :=
  ⟨⟨_, _, _, rfl, rfl, rfl, ⟨rfl, rfl, rfl, rfl, _, _, ⟨rfl, rfl⟩, rfl⟩, rfl, rfl, rfl, rfl⟩,
    ⟨_, _, _, rfl, rfl, rfl, ⟨rfl, rfl, rfl, rfl, _, _, ⟨rfl, rfl⟩, rfl⟩, by decide +kernel⟩,
    ⟨_, _, _, rfl, rfl, rfl, ⟨rfl, rfl, rfl, rfl, _, _, ⟨rfl, rfl⟩, rfl⟩, by decide +kernel⟩⟩

end ModuleHost.Registry
