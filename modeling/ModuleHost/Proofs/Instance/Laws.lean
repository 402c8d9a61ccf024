import ModuleHost.Proofs.Instance.Outside
import ModuleHost.Proofs.Instance.Soundness

namespace ModuleHost.Instance

/-- What a host relies on of an engine that makes instances of modules for it. -/
structure CreationLaws (create : Engine → Settings.Limits → Pool → GuestModule → Option UInt64 →
    Except Failure (Instance × Pool)) : Prop where
  fails : ∀ {engine limits pool m fuel e},
    create engine limits pool m fuel = .error e ↔ Fails engine limits pool m fuel e
  takesSlot : ∀ {engine limits pool m fuel i pool'},
    create engine limits pool m fuel = .ok (i, pool') → pool.acquire = .ok pool'
  -- Whichever slot it gets, an instance is the same.
  anySlot : ∀ {engine limits pool m fuel i pool' pool₂ pool₂'},
    create engine limits pool m fuel = .ok (i, pool') → pool₂.acquire = .ok pool₂' →
    create engine limits pool₂ m fuel = .ok (i, pool₂')
  links : ∀ {engine limits pool m fuel i pool'},
    create engine limits pool m fuel = .ok (i, pool') →
    ∃ calls, Linking.resolve engine.settings.wasi m.module = .ok calls ∧
      i.program = linked engine limits m.module fuel calls ∧
      i.exports = m.module.exports.map (fun e => (e.name, e.target)) ∧
      i.fingerprint = m.fingerprint
  closed : ∀ {engine limits pool m fuel world}, engine.settings.wasi = false →
    create (engine.withOutside world) limits pool m fuel =
      (create engine limits pool m fuel).map fun (i, pool) => (i.withOutside world, pool)
  tooLarge : ∀ {engine limits pool m fuel},
    (∃ l ∈ m.module.memories, limits.memoryBytes < l.min * Wasm.pageSize) →
    ∃ text, create engine limits pool m fuel = .error (.instantiation text)
  within : ∀ {engine limits pool m fuel i pool'},
    create engine limits pool m fuel = .ok (i, pool') →
    i.store.Within limits.memoryBytes ∧ i.store.memories.size = m.module.memories.size
  typed : ∀ {engine limits pool m fuel i pool'}, Wasm.Validation.check m.module = .ok () →
    m.module.Sized → create engine limits pool m fuel = .ok (i, pool') → i.Typed
  late : ∀ {engine limits metered default fuel fuel'} pool m,
    (∀ p : Wasm.Program, p.budget =
        Instance.budget (engine.metering metered).settings { limits with fuel := default } fuel' →
      Tighter (Instance.budget engine.settings limits fuel) 0 p) →
    (∃ e, create engine limits pool m fuel = .error e ∧ e.SaysExhausted) ∨
      create engine limits pool m fuel =
        (create (engine.metering metered) { limits with fuel := default } pool m fuel').map
          fun (i, pool) => (i.late (Instance.budget engine.settings limits fuel) 0, pool)

variable {engine : Engine} {limits : Settings.Limits} {pool pool' : Pool} {m : GuestModule}
  {fuel : Option UInt64} {i : Instance}

theorem links_of_create (created : create engine limits pool m fuel = .ok (i, pool')) :
    ∃ calls, Linking.resolve engine.settings.wasi m.module = .ok calls ∧
      i.program = linked engine limits m.module fuel calls ∧
      i.exports = m.module.exports.map (fun e => (e.name, e.target)) ∧
      i.fingerprint = m.fingerprint := by
  obtain ⟨ready, store, stands, -, rfl, -⟩ := create_eq_ok.mp created
  obtain ⟨memories, found, -⟩ := getReady_eq_ok.mp stands
  exact ⟨ready.calls, found, rfl, rfl, rfl⟩

theorem creationLaws : CreationLaws create where
  fails := create_eq_error_iff
  takesSlot := acquire_of_create
  anySlot := create_of_acquire
  links := links_of_create
  closed := create_withOutside
  tooLarge := create_of_large
  within := within_of_create
  typed := typed_of_create
  late := create_late

end ModuleHost.Instance
