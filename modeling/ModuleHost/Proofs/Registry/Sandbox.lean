import ModuleHost.CommandLine.Program
import ModuleHost.Proofs.Boundary.ErrorChannel
import ModuleHost.Proofs.Instance.Budget
import ModuleHost.Proofs.Registry.Lifecycle
import ModuleHost.Proofs.Registry.Creation

namespace ModuleHost

def Failure.unknownImport (name : String) : Failure :=
  .instantiation ("unknown import: `" ++ name ++ "` has not been defined")

namespace Instance

variable {engine : Engine} {limits : Settings.Limits} {pool pool' : Pool} {m : GuestModule}
  {fuel : Option UInt64} {i : Instance}

theorem getReady_of_import {name : String} {more : List String}
    (closed : engine.settings.wasi = false) (imports : m.imports = name :: more) :
    getReady engine.settings limits pool m.module = .error (.unknownImport name) := by
  obtain ⟨fault, fails, message⟩ := Linking.resolve_closed imports
  simp only [getReady, closed, fails, mapError_error, message]
  rfl

theorem create_of_import {name : String} {more : List String}
    (closed : engine.settings.wasi = false) (imports : m.imports = name :: more) :
    create engine limits pool m fuel = .error (.unknownImport name) :=
  create_eq_error.mpr (.inl (getReady_of_import closed imports))

structure Confined (i : Instance) (m : GuestModule) : Prop where
  module : i.program.module = m.module
  noHost : i.program.hostCalls = #[]

theorem confined_of_create (closed : engine.settings.wasi = false)
    (created : create engine limits pool m fuel = .ok (i, pool')) :
    m.imports = [] ∧ i.Confined m := by
  obtain ⟨unimported, noHost⟩ := noHost_of_create closed created
  obtain ⟨calls, -, program, -⟩ := creationLaws.links created
  exact ⟨unimported, by rw [program]; rfl, noHost⟩

theorem Confined.step (confined : i.Confined m) (op : Op) : (i.step op).2.Confined m := by
  obtain ⟨store, after, -⟩ := i.step_spends op
  rw [after]
  exact ⟨confined.module, confined.noHost⟩

end Instance

namespace Registry

/-- The log has the creation of an instance that is still live, from a module without imports. The
instance is confined to that module unless somebody has changed it at will. -/
inductive FromClosed (engine : Engine) (h : Handle) (i : Instance) : List Event → Prop
  | intro {before since : List Event} {source : Source} {fuel : Option UInt64} {m : GuestModule}
    (loads : source.load engine = .ok m) (noImports : m.imports = [])
    (kept : h ∉ destroyedBy since)
    (confined : (∀ change answer, (.use h change, answer) ∉ since) → i.Confined m) :
    FromClosed engine h i (before ++ (source.op fuel, .handle h) :: since)

variable {engine : Engine} {h : Handle} {i i' : Instance} {log : List Event} {e : Event}
  {r : Registry}

theorem FromClosed.append (origin : FromClosed engine h i log) (keeps : e.destroyed ≠ some h)
    (confined : ∀ m, (∀ change answer, (.use h change, answer) ≠ e) → i.Confined m →
      i'.Confined m) : FromClosed engine h i' (log ++ [e]) := by
  obtain ⟨loads, noImports, kept, before⟩ := origin
  rw [List.append_assoc, List.cons_append]
  refine .intro loads noImports ?_ fun fair => ?_
  · rw [mem_destroyedBy_append]
    exact not_or.mpr ⟨kept, keeps⟩
  · refine confined _ (fun change answer same => ?_) (before fun change answer member => ?_)
    · exact fair change answer (List.mem_append_right _ (List.mem_singleton.mpr same))
    · exact fair change answer (List.mem_append_left _ member)

theorem destroyed_ne_of_to {j : Handle} {q : Request} (other : h ≠ j) :
    (r.record (q.to j)).1.destroyed ≠ some h := by
  intro destroys
  cases q with
  | destroy =>
    simp only [record, Request.to] at destroys
    generalize (r.step (.destroy j)).1 = answer at destroys
    cases answer <;> cases destroys
    exact other rfl
  | act op => cases op <;> cases destroys
  | use | contains => cases destroys

section Step

variable (origins : ∀ h i, r.get? h = some i → FromClosed r.engine h i log)

include origins

theorem fromClosed_source (closed : r.engine.settings.wasi = false) {source : Source}
    {fuel : Option UInt64} (live : (r.step (source.op fuel)).2.get? h = some i) :
    FromClosed r.engine h i (log ++ [(r.record (source.op fuel)).1]) := by
  cases created : source.create r fuel with
  | error e =>
    rw [step_source_of_error created] at live
    refine (origins h i live).append ?_ fun _ _ same => same
    cases source <;> exact (Option.some_ne_none h).symm
  | ok result =>
    obtain ⟨j, r'⟩ := result
    obtain ⟨m, new, pool, loads, made, rfl, rfl⟩ := create_eq_ok.mp created
    rw [step_source_of_ok created, get?_enroll] at live
    have event : (r.record (source.op fuel)).1 = (source.op fuel, .handle r.freshHandle) := by
      rw [record, step_source_of_ok created]
    split at live
    · cases live
      obtain ⟨noImports, confined⟩ := Instance.confined_of_create closed made
      rw [event, ‹h = r.freshHandle›]
      exact .intro loads noImports List.not_mem_nil fun _ => confined
    · refine (origins h i live).append ?_ fun _ _ same => same
      rw [event]
      cases source <;> exact (Option.some_ne_none h).symm

theorem fromClosed_request {q : Request} (live : (r.step (q.to h)).2.get? h = some i) :
    FromClosed r.engine h i (log ++ [(r.record (q.to h)).1]) := by
  rw [get?_step_to, if_pos rfl] at live
  cases found : r.get? h with
  | none =>
    rw [found, (step_to_of_dead found).2] at live
    cases live
  | some i₀ =>
    rw [found] at live
    have event : (r.record (q.to h)).1 = (q.to h, (q.effect h (some i₀)).1) := by
      rw [record, step_to_of_live found]
    rw [event]
    cases q with
    | act op =>
      cases live
      refine (origins h i₀ found).append ?_ fun m _ confined => confined.step op
      cases op <;> exact (Option.some_ne_none h).symm
    | use change =>
      refine (origins h i₀ found).append (Option.some_ne_none h).symm fun m other _ => ?_
      exact absurd rfl (other change _)
    | contains =>
      cases live
      exact (origins h i found).append (Option.some_ne_none h).symm fun _ _ same => same
    | destroy => cases live

theorem fromClosed_step (closed : r.engine.settings.wasi = false) (op : Op) (h : Handle)
    (i : Instance) (live : (r.step op).2.get? h = some i) :
    FromClosed r.engine h i (log ++ [(r.record op).1]) := by
  rcases op_cases op with ⟨source, fuel, rfl⟩ | ⟨j, q, rfl⟩ | rfl | rfl
  · exact fromClosed_source origins closed live
  · by_cases here : h = j
    · subst here
      exact fromClosed_request origins live
    · rw [get?_step_to, if_neg here] at live
      exact (origins h i live).append (destroyed_ne_of_to here) fun _ _ same => same
  · exact (origins h i live).append (Option.some_ne_none h).symm fun _ _ same => same
  · exact (origins h i live).append (Option.some_ne_none h).symm fun _ _ same => same

end Step

theorem fromClosed_after {r₀ : Registry} (empty : r₀.instances = .empty)
    (closed : r₀.engine.settings.wasi = false) (ops : List Op) :
    ∀ h i, (r₀.after ops).get? h = some i → FromClosed r₀.engine h i (r₀.trace ops) := by
  have kept := @Run.invariant _ _ _ record r₀ (fun log r => r.engine = r₀.engine ∧
    ∀ h i, r.get? h = some i → FromClosed r₀.engine h i log) ?_ ?_ ops
  · exact kept.2
  · refine ⟨rfl, fun h i live => ?_⟩
    simp [get?, empty] at live
  · rintro log r op ⟨same, origins⟩
    rw [← same] at origins closed ⊢
    exact ⟨(sameSettings_step r op).engine, fromClosed_step origins closed op⟩

section Statement

open Boundary (Embedding Thread ErrorSlot)
open CommandLine (Command Report)

variable (r : Registry) (name : String)

/-- A creation from a module is refused for an import, whatever the way to it. It does not get as
far as running the guest, and leaves the registry as it is. -/
structure RefusesFor (source : Source) (m : GuestModule) (fuel : Option UInt64) : Prop where
  early : Instance.getReady r.engine.settings r.limits r.pool m.module =
    .error (.unknownImport name)
  create : source.create r fuel = .error (.unknownImport name)
  step : r.step (source.op fuel) = (.failure (.unknownImport name), r)

def RefusesFromOutside (bytes : List UInt8) : Prop :=
  ∀ (errors : Thread → ErrorSlot) t fuel,
    Embedding.createInstance ⟨.ok r, errors⟩ t (some bytes) fuel =
      (0, Embedding.fail ⟨.ok r, errors⟩ t (.unknownImport name))

def RefusesFromCommand (read : Files.Reader) (path : String) : Prop :=
  ∀ function interface fuel args,
    Command.perform read r (.run path function interface fuel args) =
      .error ⟨"Failed to instantiate module", .unknownImport name⟩

/-- The live instances after a run, and what becomes of modules with imports then. -/
structure Sandboxed (log : List Event) (r : Registry) : Prop where
  origin : ∀ h i, r.get? h = some i → FromClosed r.engine h i log
  refuses : ∀ (source : Source) m name more fuel, source.load r.engine = .ok m →
    m.imports = name :: more → r.RefusesFor name source m fuel
  outside : ∀ bytes m name more, GuestModule.ofBytes r.engine bytes = .ok m →
    m.imports = name :: more → r.RefusesFromOutside name bytes
  command : ∀ read path m name more, GuestModule.ofFile r.engine read path = .ok m →
    m.imports = name :: more → r.RefusesFromCommand name read path

end Statement

variable {r : Registry} {name : String} {more : List String} {m : GuestModule}

theorem create_of_import {source : Source} {fuel : Option UInt64}
    (closed : r.engine.settings.wasi = false) (loads : source.load r.engine = .ok m)
    (imports : m.imports = name :: more) :
    source.create r fuel = .error (.unknownImport name) :=
  (create_eq_error_of_load loads).mpr (Instance.create_of_import closed imports)

theorem refusesFromOutside_of_import {bytes : List UInt8} (closed : r.engine.settings.wasi = false)
    (accepts : GuestModule.ofBytes r.engine bytes = .ok m) (imports : m.imports = name :: more) :
    r.RefusesFromOutside name bytes := by
  intro errors t fuel
  have fails : r.createOf bytes (Boundary.Embedding.fuelOf fuel) = .error (.unknownImport name) :=
    @create_of_import _ _ _ _ (.ofBytes bytes) _ closed accepts imports
  exact Boundary.Embedding.createInstance_of_fails
    ((Boundary.Embedding.create_of_registry rfl).trans fails)

theorem refusesFromCommand_of_import {read : Files.Reader} {path : String}
    (closed : r.engine.settings.wasi = false)
    (accepts : GuestModule.ofFile r.engine read path = .ok m) (imports : m.imports = name :: more) :
    r.RefusesFromCommand name read path := by
  intro function interface fuel args
  have fails : r.createFrom m fuel = .error (.unknownImport name) :=
    @create_of_import _ _ _ _ (.ofModule m) _ closed rfl imports
  simp only [CommandLine.Command.perform, CommandLine.loadModule, accepts, fails,
    CommandLine.during, mapError_ok, mapError_error, bind, Except.bind]

theorem sandbox_closed [Runtime] {s : Settings} {r₀ : Registry} (created : create s = .ok r₀)
    (closed : s.engine.wasi = false) (ops : List Op) :
    Sandboxed (r₀.trace ops) (r₀.after ops) := by
  have start : r₀.engine.settings.wasi = false := by rw [(settings_of_create created).2.1, closed]
  have same := (sameSettings_after r₀ ops).engine
  have origins := fromClosed_after (empty_of_create created).1 start ops
  rw [← same] at start origins
  generalize r₀.trace ops = log at origins
  generalize r₀.after ops = r at start origins
  refine
    { origin := origins
      refuses := fun source m name more fuel loads imports => ?_
      outside := fun _ _ _ _ => refusesFromOutside_of_import start
      command := fun _ _ _ _ _ => refusesFromCommand_of_import start }
  have fails : source.create r fuel = .error (.unknownImport name) :=
    create_of_import start loads imports
  exact ⟨Instance.getReady_of_import start imports, fails, step_source_of_error fails⟩

def importing : GuestModule where
  module := {
    types := #[⟨[], []⟩]
    imports := [⟨"env", "memory", .memory ⟨1, none⟩⟩, ⟨"env", "log", .func 0⟩]
    funcs := #[⟨0, [], [.unreachable]⟩], tables := #[], memories := #[], globals := #[]
    exports := [], start := some 1, elems := #[], dataCount := none, datas := #[] }
  fingerprint := ""

theorem sandbox_closed_importing :
    let ops : List Op := [.createFrom stopping none, .createFrom importing none]
    ∃ r₀, create {} = .ok r₀ ∧ ({} : Settings).engine.wasi = false ∧
      (r₀.trace ops).map Prod.snd = [.handle 1, .failure (.unknownImport "env::memory")] ∧
      Sandboxed (r₀.trace ops) (r₀.after ops) := by
  intro ops
  exact ⟨_, rfl, rfl, rfl, sandbox_closed (s := {}) rfl rfl ops⟩

end Registry

end ModuleHost
