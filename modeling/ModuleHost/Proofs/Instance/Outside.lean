import ModuleHost.Proofs.Instance.Metering
import ModuleHost.Proofs.Linking

namespace ModuleHost

open Wasi (Outside)

def Engine.withOutside (e : Engine) (w : Outside) : Engine :=
  { e with runtime := { e.runtime with outside := w } }

namespace Instance

open Wasm (Slot Program)

def withOutside (i : Instance) (w : Outside) : Instance :=
  { i with program := i.program.withOutside w }

variable {i : Instance} {w : Outside}

theorem writeBytes_withOutside {offset : Nat} {bytes : List UInt8} :
    (i.withOutside w).writeBytes offset bytes =
      (i.writeBytes offset bytes).map (·.withOutside w) := by
  have finds : (i.withOutside w).memoryWith offset bytes.length =
      i.memoryWith offset bytes.length := rfl
  unfold writeBytes
  rw [finds]
  cases i.memoryWith offset bytes.length <;> rfl

section Closed

variable (closed : i.program.hostCalls = #[])

include closed

theorem call_withOutside (interface : Option String) (name : String) (args : List Value) :
    (i.withOutside w).call interface name args =
      ((i.call interface name args).1, (i.call interface name args).2.withOutside w) := by
  have enters (f : Nat) (args : List Slot) : (i.withOutside w).enter f args = i.enter f args := by
    show (if i.isHostFunction f then _ else _) = if i.isHostFunction f then _ else _
    split
    · rfl
    · exact Wasm.callLaws.closed f args i.store closed
  simp only [call, callWith, enters]
  generalize qualify interface name = name
  have resolves : (i.withOutside w).resolve name = i.resolve name := rfl
  rw [resolves]
  cases i.resolve name with
  | error e => rfl
  | ok target =>
    obtain ⟨f, s⟩ := target
    dsimp only
    cases s.requireArgs name args with
    | error e => rfl
    | ok _ =>
      dsimp only
      cases i.enter f (args.map Value.bits) <;> rfl

theorem step_withOutside (op : Op) :
    (i.withOutside w).step op = ((i.step op).1, (i.step op).2.withOutside w) := by
  cases op with
  | call interface name args => simp only [step, call_withOutside closed]
  | writeBytes offset bytes =>
    simp only [step, writeBytes_withOutside]
    cases i.writeBytes offset bytes <;> rfl
  | signature | readBytes | fuelLeft | fingerprint => rfl

theorem trace_withOutside (ops : List Op) : (i.withOutside w).trace ops = i.trace ops := by
  induction ops generalizing i with
  | nil => rfl
  | cons op ops ih =>
    have closed' : (i.step op).2.program.hostCalls = #[] := by rwa [program_step]
    have rest := ih closed'
    show ((i.withOutside w).step op).1 :: ((i.withOutside w).step op).2.trace ops = _
    rw [step_withOutside closed, rest]
    rfl

end Closed

theorem noHost_of_create {engine : Engine} {limits : Settings.Limits} {pool pool' : Pool}
    {m : GuestModule} {fuel : Option UInt64} (closed : engine.settings.wasi = false)
    (created : create engine limits pool m fuel = .ok (i, pool')) :
    m.imports = [] ∧ i.program.hostCalls = #[] := by
  obtain ⟨ready, store, stands, -, rfl, -⟩ := create_eq_ok.mp created
  obtain ⟨memories, links, -⟩ := getReady_eq_ok.mp stands
  rw [closed] at links
  obtain ⟨unimported, noCalls⟩ := Linking.resolve_eq_ok_closed links
  exact ⟨unimported, congrArg List.toArray noCalls⟩

theorem runStart_withOutside {p : Program} (closed : p.hostCalls = #[]) (s : Wasm.Store) :
    runStart (p.withOutside w) s = runStart p s := by
  have start : (p.withOutside w).module.start = p.module.start := rfl
  simp only [runStart, start, Wasm.callLaws.closed _ _ s closed]

theorem create_withOutside {engine : Engine} {limits : Settings.Limits} {pool : Pool}
    {m : GuestModule} {fuel : Option UInt64} (closed : engine.settings.wasi = false) :
    create (engine.withOutside w) limits pool m fuel =
      (create engine limits pool m fuel).map fun (i, pool) => (i.withOutside w, pool) := by
  have same : (engine.withOutside w).settings = engine.settings := rfl
  rw [create_eq, create_eq, same]
  cases stands : getReady engine.settings limits pool m.module with
  | error e => rfl
  | ok ready =>
    obtain ⟨memories, links, -⟩ := getReady_eq_ok.mp stands
    rw [closed] at links
    obtain ⟨-, noCalls⟩ := Linking.resolve_eq_ok_closed links
    let program := linked engine limits m.module fuel ready.calls
    have started : runStart (program.withOutside w) ready.store = runStart program ready.store :=
      runStart_withOutside (congrArg List.toArray noCalls) ready.store
    have linked' : linked (engine.withOutside w) limits m.module fuel ready.calls =
      program.withOutside w := rfl
    simp only [bind, Except.bind, linked', started]
    cases runStart program ready.store <;> rfl

end Instance

end ModuleHost
