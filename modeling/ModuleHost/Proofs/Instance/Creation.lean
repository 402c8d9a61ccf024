import Mathlib.Tactic
import ModuleHost.Instance.Creation
import ModuleHost.Proofs.Except

namespace ModuleHost.Instance

open Wasm

/-- What there is of an instance before its start function runs. -/
structure Ready where
  calls : List Wasi.Call
  pool : Pool
  store : Store

variable {engine : Engine} {limits : Settings.Limits} {pool pool' : Pool} {m : GuestModule}
  {fuel : Option UInt64} {ready : Ready} {i : Instance}

def getReady (engine : Settings.Engine) (limits : Settings.Limits) (pool : Pool) (m : Module) :
    Except Failure Ready := do
  let calls ← (Linking.resolve engine.wasi m).mapError (.instantiation ·.message)
  let pool ← pool.acquire.mapError .instantiation
  let memories ← makeMemories engine limits m.memories.toList
  let store ← (copySegments m (makeStore engine m memories)).mapError fun t =>
    (⟨[], .trap t⟩ : GuestFault).toCreationFailure
  return ⟨calls, pool, store⟩

def linked (engine : Engine) (limits : Settings.Limits) (m : Module) (fuel : Option UInt64)
    (calls : List Wasi.Call) : Program where
  module := m
  hostCalls := calls.toArray
  outside := engine.runtime.outside
  budget := budget engine.settings limits fuel
  maxDepth := engine.runtime.nesting engine.settings.stackBytes

theorem create_eq :
    create engine limits pool m fuel = do
      let ready ← getReady engine.settings limits pool m.module
      let program := linked engine limits m.module fuel ready.calls
      let store ← (runStart program ready.store).mapError GuestFault.toCreationFailure
      return (⟨program, m.module.exports.map fun e => (e.name, e.target), store, m.fingerprint⟩,
        ready.pool) := by
  simp only [create, getReady, linked, bind_assoc, pure_bind]

theorem create_eq_ok :
    create engine limits pool m fuel = .ok (i, pool') ↔
      ∃ ready store, getReady engine.settings limits pool m.module = .ok ready ∧
        runStart (linked engine limits m.module fuel ready.calls) ready.store =
          .ok store ∧
        i = ⟨linked engine limits m.module fuel ready.calls,
          m.module.exports.map fun e => (e.name, e.target), store, m.fingerprint⟩ ∧
        pool' = ready.pool := by
  simp only [create_eq, bind_eq_ok, mapError_eq_ok]
  constructor
  · rintro ⟨ready, stands, store, starts, same⟩
    cases same
    exact ⟨ready, store, stands, starts, rfl, rfl⟩
  · rintro ⟨ready, store, stands, starts, rfl, rfl⟩
    exact ⟨ready, stands, store, starts, rfl⟩

theorem create_eq_error {e : Failure} :
    create engine limits pool m fuel = .error e ↔
      getReady engine.settings limits pool m.module = .error e ∨
      ∃ ready fault, getReady engine.settings limits pool m.module = .ok ready ∧
        runStart (linked engine limits m.module fuel ready.calls) ready.store =
          .error fault ∧
        fault.toCreationFailure = e := by
  simp only [create_eq, bind_eq_error, mapError_eq_error]
  constructor
  · rintro (unready | ⟨ready, stands, ⟨fault, stops, rfl⟩ | ⟨store, -, returns⟩⟩)
    · exact .inl unready
    · exact .inr ⟨ready, fault, stands, stops, rfl⟩
    · cases returns
  · rintro (unready | ⟨ready, fault, stands, stops, rfl⟩)
    · exact .inl unready
    · exact .inr ⟨ready, stands, .inl ⟨fault, stops, rfl⟩⟩

theorem getReady_eq_ok :
    getReady engine.settings limits pool m.module = .ok ready ↔
      ∃ memories, Linking.resolve engine.settings.wasi m.module = .ok ready.calls ∧
        pool.acquire = .ok ready.pool ∧
        makeMemories engine.settings limits m.module.memories.toList = .ok memories ∧
        copySegments m.module (makeStore engine.settings m.module memories) = .ok ready.store := by
  simp only [getReady, bind_eq_ok, mapError_eq_ok]
  constructor
  · rintro ⟨calls, found, pool', taken, memories, made, store, copied, same⟩
    cases same
    exact ⟨memories, found, taken, made, copied⟩
  · rintro ⟨memories, found, taken, made, copied⟩
    exact ⟨ready.calls, found, ready.pool, taken, memories, made, ready.store, copied, rfl⟩

theorem create_of_acquire {pool₂ pool₂' : Pool}
    (created : create engine limits pool m fuel = .ok (i, pool'))
    (acquires : pool₂.acquire = .ok pool₂') :
    create engine limits pool₂ m fuel = .ok (i, pool₂') := by
  obtain ⟨ready, store, stands, starts, rfl, rfl⟩ := create_eq_ok.mp created
  obtain ⟨memories, found, taken, made, copied⟩ := getReady_eq_ok.mp stands
  refine create_eq_ok.mpr ⟨⟨ready.calls, pool₂', ready.store⟩, store, ?_, starts, rfl, rfl⟩
  exact getReady_eq_ok.mpr ⟨memories, found, acquires, made, copied⟩

theorem acquire_of_create (created : create engine limits pool m fuel = .ok (i, pool')) :
    pool.acquire = .ok pool' := by
  obtain ⟨ready, store, stands, starts, rfl, rfl⟩ := create_eq_ok.mp created
  obtain ⟨memories, found, taken, made, copied⟩ := getReady_eq_ok.mp stands
  exact taken

theorem makeMemories_metering (engine : Settings.Engine) (limits : Settings.Limits)
    (metered : Bool) (fuel : Option UInt64) (ls : List Limits) :
    makeMemories { engine with metered } { limits with fuel } ls =
      makeMemories engine limits ls := by
  induction ls with
  | nil => rfl
  | cons l ls ih =>
    simp only [makeMemories, ih]
    rfl

theorem getReady_metering (engine : Settings.Engine) (limits : Settings.Limits) (metered : Bool)
    (fuel : Option UInt64) (pool : Pool) (m : Module) :
    getReady { engine with metered } { limits with fuel } pool m =
      getReady engine limits pool m := by
  simp only [getReady, makeMemories_metering]
  rfl

theorem fuelSpent_makeGlobals (s : Store) (globals : List Global) :
    (makeGlobals s globals).fuelSpent = s.fuelSpent := by
  induction globals generalizing s with
  | nil => rfl
  | cons g globals ih => exact ih { s with globals := s.globals.push (evaluate s g.init) }

theorem fuelSpent_copyElems {s s' : Store} {es : List Elem} (copied : copyElems s es = .ok s') :
    s'.fuelSpent = s.fuelSpent := by
  induction es generalizing s with
  | nil =>
    cases copied
    rfl
  | cons e es ih =>
    simp only [copyElems] at copied
    split at copied
    · split at copied
      · have kept := ih copied
        exact kept
      · cases copied
    · exact ih copied

theorem fuelSpent_copyDatas {s s' : Store} {ds : List Data} (copied : copyDatas s ds = .ok s') :
    s'.fuelSpent = s.fuelSpent := by
  induction ds generalizing s with
  | nil =>
    cases copied
    rfl
  | cons d ds ih =>
    simp only [copyDatas] at copied
    split at copied
    · split at copied
      · have kept := ih copied
        exact kept
      · cases copied
    · exact ih copied

theorem fuelSpent_of_ready (stands : getReady engine.settings limits pool m.module = .ok ready) :
    ready.store.fuelSpent = 0 := by
  obtain ⟨memories, -, -, -, copied⟩ := getReady_eq_ok.mp stands
  obtain ⟨s, elems, datas⟩ := bind_eq_ok.mp copied
  rw [fuelSpent_copyDatas datas, fuelSpent_copyElems elems]
  exact fuelSpent_makeGlobals _ _

end ModuleHost.Instance
