import ModuleHost.CommandLine.Program
import ModuleHost.Proofs.Boundary.Session
import ModuleHost.Proofs.CommandLine.Words
import ModuleHost.Proofs.GuestModule

namespace ModuleHost

open Boundary (Session ErrorSlot)

variable {read : Files.Reader} {path name : String} {bytes : List UInt8}

namespace CommandLine

variable {r : Registry} {interface : Option String} {fuel : Option UInt64} {args : List Value}
  {results : List Value} {e : Failure}

section

variable (file : read path = .ok bytes) (binary : Files.extension path ≠ some "wat")

include file binary

theorem run_of_ok (answers : r.firstCall bytes fuel interface name args = .ok results) :
    Command.perform read r (.run path name interface fuel args) =
      .ok (results.map Value.write) := by
  obtain ⟨h, r', creates, answers⟩ := Registry.firstCall_eq_ok.mp answers
  obtain ⟨m, compiles, creates⟩ := bind_eq_ok.mp creates
  rw [← GuestModule.ofFile_of_binary file binary] at compiles
  simp only [Command.perform, loadModule, compiles, creates, answers, during, mapError_ok, bind,
    Except.bind, pure, Except.pure]

theorem run_of_error (fails : r.firstCall bytes fuel interface name args = .error e) :
    ∃ activity, Command.perform read r (.run path name interface fuel args) =
      .error ⟨activity, e⟩ := by
  rcases Registry.firstCall_eq_error.mp fails with uncreated | ⟨h, r', creates, fails⟩
  · rcases bind_eq_error.mp uncreated with uncompiled | ⟨m, compiles, uncreated⟩
    · rw [← GuestModule.ofFile_of_binary file binary] at uncompiled
      simp only [Command.perform, loadModule, uncompiled, during, mapError_error, bind, Except.bind]
      exact ⟨_, rfl⟩
    · rw [← GuestModule.ofFile_of_binary file binary] at compiles
      simp only [Command.perform, loadModule, compiles, uncreated, during, mapError_ok,
        mapError_error, bind, Except.bind]
      exact ⟨_, rfl⟩
  · obtain ⟨m, compiles, creates⟩ := bind_eq_ok.mp creates
    rw [← GuestModule.ofFile_of_binary file binary] at compiles
    simp only [Command.perform, loadModule, compiles, creates, fails, during, mapError_ok,
      mapError_error, bind, Except.bind]
    exact ⟨_, rfl⟩

end

theorem toList_writeLines (lines : List String) :
    (writeLines lines).toList = lines.flatMap (·.toList ++ ['\n']) := by
  suffices after : ∀ text : String,
      (lines.foldl (fun acc line => acc ++ line ++ "\n") text).toList =
        text.toList ++ lines.flatMap (·.toList ++ ['\n']) from
    after ""
  induction lines with
  | nil => simp
  | cons line lines ih =>
    intro text
    rw [List.foldl_cons, ih, List.flatMap_cons]
    simp [String.toList_append]

theorem toList_writeLines_map (results : List Value) :
    (writeLines (results.map Value.write)).toList =
      results.flatMap (·.write.toList ++ ['\n']) := by
  rw [toList_writeLines, List.flatMap_map]

theorem perform_of_settings [Runtime] {config : Option String} {s : Settings} {json : Bool}
    {command : Command} (named : config ≠ some "")
    (loads : Settings.ofEnvironment read config = .ok s) (stands : Registry.create s = .ok r) :
    Invocation.perform read ⟨config, json, command⟩ = command.perform read r := by
  have loaded : loadSettings read config = .ok s := by
    cases config with
    | none => exact congrArg Except.ok (Except.ok.inj loads)
    | some path =>
      have nonempty : path.isEmpty = false := by
        simpa using named
      rw [Settings.ofEnvironment, nonempty] at loads
      exact mapError_eq_ok.mpr loads
  simp only [Invocation.perform, loaded, stands, during, mapError_ok, bind, Except.bind]

section

variable [Runtime] {l : RunLine} {setting : Option String} {s : Settings}
  (well : l.WellFormed fuel args) (set : setting ≠ some "")
  (loads : Settings.ofEnvironment read (l.config.or setting) = .ok s)
  (stands : Registry.create s = .ok r) (file : read l.path = .ok bytes)
  (binary : Files.extension l.path ≠ some "wat")

include well set loads stands

theorem perform_words :
    ∃ invocation, Invocation.read l.words setting = .ok invocation ∧
      invocation.perform read =
        (Command.run l.path l.name l.interface fuel args).perform read r := by
  have nonempty : l.config.or setting ≠ some "" := by
    cases given : l.config with
    | none => exact set
    | some c =>
      intro empty
      exact (well.config c given).1 (Option.some.inj empty)
  exact ⟨_, RunLine.read_words well set, perform_of_settings nonempty loads stands⟩

include file binary

theorem runProgram_of_ok
    (answers : r.firstCall bytes fuel l.interface l.name args = .ok results) :
    runProgram l.words setting read = ⟨0, writeLines (results.map Value.write), ""⟩ := by
  obtain ⟨invocation, reads, performs⟩ := perform_words well set loads stands
  rw [run_of_ok file binary answers] at performs
  simp only [runProgram, reads, performs]

theorem runProgram_of_error (fails : r.firstCall bytes fuel l.interface l.name args = .error e) :
    ∃ invocation report, Invocation.read l.words setting = .ok invocation ∧
      invocation.perform read = .error report ∧
      runProgram l.words setting read = ⟨1, "", report.write⟩ ∧ report.failure = e := by
  obtain ⟨invocation, reads, performs⟩ := perform_words well set loads stands
  obtain ⟨activity, stops⟩ := run_of_error file binary fails
  rw [stops] at performs
  refine ⟨invocation, _, reads, performs, ?_, rfl⟩
  simp only [runProgram, reads, performs]

end

def RunLine.session (l : RunLine) (setting : Option String) (read : Files.Reader)
    (thread : Boundary.Thread) (bytes : List UInt8) (fuel : Option UInt64)
    (slots : Boundary.PointerArray) : Session :=
  ⟨read, l.config.or setting, thread, bytes, fuel.getD 0, l.interface, l.name, slots⟩

/-- A line prints what a session delivers. All NaNs print alike, so what is printed is told by the
values that are delivered and not the other way round. -/
structure Agree [Runtime] (l : RunLine) (setting : Option String) (read : Files.Reader)
    (x : Session) : Prop where
  prints : ∀ text, (runProgram l.words setting read).exitCode = 0 ∧
      (runProgram l.words setting read).stdout = text ↔
    ∃ results, x.Delivers results ∧ text.toList = results.flatMap (·.write.toList ++ ['\n'])
  delivers : x.Succeeds → ∃ results, x.Delivers results
  unique : ∀ results results', x.Delivers results → x.Delivers results' → results = results'
  reports : ¬ x.Succeeds → ∃ invocation report, Invocation.read l.words setting = .ok invocation ∧
    invocation.perform read = .error report ∧
    runProgram l.words setting read = ⟨1, "", report.write⟩ ∧
    x.pending = ErrorSlot.ofFailure report.failure

theorem front_ends_agree [Runtime] {l : RunLine} {setting : Option String} {s : Settings}
    {slots : Boundary.PointerArray} (well : l.WellFormed fuel args) (set : setting ≠ some "")
    (loads : Settings.ofEnvironment read (l.config.or setting) = .ok s)
    (stands : Registry.create s = .ok r) (file : read l.path = .ok bytes)
    (binary : Files.extension l.path ≠ some "wat") (positive : fuel ≠ some 0)
    (free : ∀ text ∈ l.interface, '\x00' ∉ text.toList) (named : '\x00' ∉ l.name.toList)
    (thread : Boundary.Thread)
    (passes : (l.session setting read thread bytes fuel slots).Passes args) :
    Agree l setting read (l.session setting read thread bytes fuel slots) := by
  have ready : Settings.ofEnvironment read (l.config.or setting) >>= Registry.create = .ok r :=
    bind_eq_ok.mpr ⟨s, loads, stands⟩
  have answer : (l.session setting read thread bytes fuel slots).answer r args =
      r.firstCall bytes fuel l.interface l.name args := by
    rw [Session.answer, RunLine.session, Boundary.Embedding.fuelOf_getD positive]
  -- Both front ends come down to one call of the registry, which decides what they report.
  cases called : r.firstCall bytes fuel l.interface l.name args with
  | ok results =>
    have printed := runProgram_of_ok well set loads stands file binary called
    have delivers := Session.delivers_of_ok ready free named passes (answer.trans called)
    refine
      { prints := fun text => ?_
        delivers := fun _ => ⟨results, delivers⟩
        unique := fun _ _ => Session.Delivers.unique
        reports := fun fails => absurd delivers.succeeds fails }
    rw [printed]
    constructor
    · rintro ⟨-, rfl⟩
      exact ⟨results, delivers, toList_writeLines_map results⟩
    · rintro ⟨results', delivers', told⟩
      rw [delivers'.unique delivers, ← toList_writeLines_map] at told
      exact ⟨rfl, (String.toList_inj.mp told).symm⟩
  | error e =>
    obtain ⟨invocation, report, reads, performs, printed, rfl⟩ :=
      runProgram_of_error well set loads stands file binary called
    obtain ⟨fails, pending⟩ := Session.fails_of_error ready free named passes (answer.trans called)
    refine
      { prints := fun text => ?_
        delivers := fun succeeds => absurd succeeds fails
        unique := fun _ _ => Session.Delivers.unique
        reports := fun _ => ⟨invocation, report, reads, performs, printed, pending⟩ }
    rw [printed]
    constructor
    · rintro ⟨⟨⟩, -⟩
    · rintro ⟨results, delivers, -⟩
      exact absurd delivers.succeeds fails

namespace RunLine

def sample : RunLine :=
  ⟨some "host.toml", none, some "100", "mixed.wasm", "run", ["i32:7"]⟩

def sampleFiles : Files.Reader := fun path =>
  if path = "host.toml" then .ok (Utf8.encode "[limits]\nmax_memory_mb = 4\n")
  else .ok GuestModule.mixedBytes

def sampleSlots : Boundary.PointerArray :=
  some [some (Boundary.Cell.write (.replicate 16 0) (Value.i32 7).toBytes),
    some (.replicate 16 0)]

theorem wellFormed_sample : sample.WellFormed (some 100) [.i32 7] where
  config := by
    rintro _ ⟨⟩
    exact ⟨by decide, by unfold Plain; decide⟩
  interface := nofun
  fuel := .some rfl
  path := ⟨by decide, by unfold Plain; decide⟩
  name := by unfold Plain; decide
  args := .cons rfl .nil

theorem loads_sample : Settings.ofEnvironment sampleFiles (some "host.toml") =
    .ok { limits := { memoryMb := 4 } } := by
  decide +kernel

end RunLine

theorem front_ends_agree_sample :
    let x := RunLine.sample.session none RunLine.sampleFiles 0 GuestModule.mixedBytes (some 100)
      RunLine.sampleSlots
    x.signature = .ok ⟨[.i32], [.i32]⟩ ∧ x.Passes [.i32 7] ∧
      Agree RunLine.sample none RunLine.sampleFiles x := by
  have runs : ∃ r₀ h r, Registry.create { limits := { memoryMb := 4 } } = .ok r₀ ∧
      r₀.engine.settings.pooling = false ∧
      r₀.createFrom GuestModule.mixed (some 100) = .ok (h, r) ∧
      r.signature h none "run" = .ok ⟨[.i32], [.i32]⟩ := ⟨_, _, _, rfl, rfl, rfl, rfl⟩
  obtain ⟨r₀, h, r, stands, separate, creates, signed⟩ := runs
  have creates' : r₀.createOf GuestModule.mixedBytes (some 100) = .ok (h, r) :=
    Registry.createOf_eq_ok.mpr ⟨_, GuestModule.ofBytes_mixed separate, creates⟩
  obtain ⟨errors, i, created, handle, live, typed⟩ := Session.created_of_ok
    (x := RunLine.sample.session none RunLine.sampleFiles 0 GuestModule.mixedBytes (some 100)
      RunLine.sampleSlots) (bind_eq_ok.mpr ⟨_, RunLine.loads_sample, stands⟩) creates'
  have signature := typed.trans ((Registry.signature_of_live live).symm.trans signed)
  refine ⟨signature, ?_⟩
  have passes : (RunLine.sample.session none RunLine.sampleFiles 0 GuestModule.mixedBytes (some 100)
      RunLine.sampleSlots).Passes [.i32 7] := by
    intro s same
    cases signature.symm.trans same
    refine ⟨rfl, ?_, ?_⟩
    · intro k v value
      cases k with
      | zero =>
        cases value
        exact ⟨_, rfl, by decide⟩
      | succ k => cases value
    · intro j bound
      obtain rfl := Nat.lt_one_iff.mp bound
      nofun
  exact ⟨passes, front_ends_agree RunLine.wellFormed_sample (by decide) RunLine.loads_sample stands
    rfl (by decide) (by decide) nofun (by decide) 0 passes⟩

end CommandLine

end ModuleHost
