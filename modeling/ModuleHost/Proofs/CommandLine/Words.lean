import Mathlib.Tactic
import ModuleHost.CommandLine.Arguments
import ModuleHost.Proofs.Except

namespace ModuleHost.CommandLine

variable {word value text : String}

def Plain (word : String) : Prop :=
  word.toList.head? ≠ some '-'

theorem ofWord_of_plain (plain : Plain word) : Shape.ofWord word = .plain := by
  unfold Plain at plain
  unfold Shape.ofWord
  split
  all_goals rename_i letters
  · simp [letters] at plain
  · simp [letters] at plain
  · rfl
  · simp [letters] at plain
  · rfl

theorem hyphen_of_not_plain (hyphen : ¬ Plain word) : ∃ cs, word.toList = '-' :: cs :=
  List.head?_eq_some_iff.mp (not_not.mp hyphen)

theorem plain_of_readFuel {n : UInt64} (reads : readFuel text = some n) : Plain text := by
  by_contra hyphen
  obtain ⟨cs, letters⟩ := hyphen_of_not_plain hyphen
  have refused : Digits.readUnsigned 10 (UInt64.size - 1) ('-' :: cs) = .error .invalidDigit := rfl
  rw [readFuel, letters, refused] at reads
  cases reads

theorem readNumber_hyphen (kind number : List Char) :
    Value.readNumber ('-' :: kind) number = .error (.unknownKind ('-' :: kind)) := by
  unfold Value.readNumber
  split
  all_goals rename_i named
  any_goals
    have letters := congrArg String.toList named
    simp at letters
  rfl

theorem plain_of_read {v : Value} (reads : Value.read text = .ok v) : Plain text := by
  by_contra hyphen
  obtain ⟨cs, letters⟩ := hyphen_of_not_plain hyphen
  rw [Value.read, mapError_eq_ok, letters] at reads
  unfold Value.readChars at reads
  split at reads
  · cases reads
  · rename_i kind number parts
    unfold Value.splitAtColon at parts
    split at parts
    · cases parts
    · cases parts
      rw [List.takeWhile_cons_of_pos (by decide), readNumber_hyphen] at reads
      cases reads

namespace Scan

variable {s s' : Scan} {flag : Flag} {name : String} {words : List String}

theorem step_option (early : s.isPastOptions = false) (idle : s.pending = none)
    (long : Shape.ofWord word = .long name none) (known : s.level.flags.lookup name = some flag)
    (takes : flag.takesValue = true) : s.step word = .ok { s with pending := some flag } := by
  simp only [step, early, long, known, addFlag, idle]
  cases flag <;> first | rfl | cases takes

theorem step_value (early : s.isPastOptions = false) (awaits : s.pending = some flag)
    (plain : Plain word) (fresh : s.values.lookup flag = none)
    (accepts : flag.accepts word = true) :
    s.step word = .ok { s with values := s.values ++ [(flag, word)], pending := none } := by
  simp [step, early, ofWord_of_plain plain, addWord, awaits, give, fresh, accepts]

theorem step_place (idle : s.pending = none) (plain : Plain word)
    (accepts : s.level.accepts s.places.length word = true) :
    s.step word = .ok { s with places := s.places ++ [word] } := by
  unfold step
  split
  · simp [place, accepts]
  · simp [ofWord_of_plain plain, addWord, idle, place, accepts]

theorem steps_cons (step : s.step word = .ok s') : steps (word :: words) s = steps words s' := by
  rw [steps, step]
  rfl

theorem steps_option (early : s.isPastOptions = false) (idle : s.pending = none)
    (long : Shape.ofWord word = .long name none) (known : s.level.flags.lookup name = some flag)
    (takes : flag.takesValue = true) (plain : Plain value)
    (fresh : s.values.lookup flag = none) (accepts : flag.accepts value = true) :
    steps (word :: value :: words) s =
      steps words { s with values := s.values ++ [(flag, value)], pending := none } := by
  rw [steps_cons (step_option early idle long known takes)]
  exact steps_cons (step_value early rfl plain fresh accepts)

theorem program_option (noHelp : word ≠ "help") (noLevel : Level.ofWord word = none)
    (step : s.step word = .ok s') : program (word :: words) s = program words s' := by
  rw [program, if_neg noHelp, noLevel, step]
  split <;> rfl

theorem program_value (awaits : s.pending = some flag) (step : s.step word = .ok s') :
    program (word :: words) s = program words s' := by
  rw [program, if_pos (by simp [awaits]), step]
  rfl

theorem steps_args (level : s.level = .run) (idle : s.pending = none)
    (named : 2 ≤ s.places.length) (reads : ∀ word ∈ words, ∃ v, Value.read word = .ok v) :
    steps words s = .ok { s with places := s.places ++ words } := by
  induction words generalizing s with
  | nil =>
    have idly : ¬ s.pending.isSome = true := by simp [idle]
    rw [steps, if_neg idly, List.append_nil]
  | cons word words ih =>
    obtain ⟨⟨v, read⟩, others⟩ := List.forall_mem_cons.mp reads
    have accepts : s.level.accepts s.places.length word = true := by
      rw [level]
      obtain ⟨k, count⟩ := Nat.exists_eq_add_of_le' named
      rw [count]
      simp [Level.accepts, read, Except.toOption]
    rw [steps_cons (step_place idle (plain_of_read read) accepts)]
    refine (ih ?_ ?_ ?_ others).trans ?_
    · exact level
    · exact idle
    · simp only [List.length_append]
      omega
    · simp

end Scan

/-- What a line says that runs an export. -/
structure RunLine where
  config : Option String
  interface : Option String
  fuel : Option String
  path : String
  name : String
  args : List String

namespace RunLine

variable {l : RunLine} {fuel : Option UInt64} {args : List Value}

def options (l : RunLine) : List String :=
  (l.interface.elim [] fun i => ["--interface", i]) ++ l.fuel.elim [] fun f => ["--fuel", f]

def words (l : RunLine) : List String :=
  (l.config.elim [] fun c => ["--config", c]) ++ "run" :: l.options ++ l.path :: l.name :: l.args

/-- The parts of a line can be told from options, and its numbers can be read. -/
structure WellFormed (l : RunLine) (fuel : Option UInt64) (args : List Value) : Prop where
  config : ∀ c ∈ l.config, c ≠ "" ∧ Plain c
  interface : ∀ i ∈ l.interface, Plain i
  fuel : Option.Rel (fun text n => readFuel text = some n) l.fuel fuel
  path : l.path ≠ "" ∧ Plain l.path
  name : Plain l.name
  args : List.Forall₂ (fun word v => Value.read word = .ok v) l.args args

def values (l : RunLine) : List (Flag × String) :=
  l.interface.toList.map (Flag.interface, ·) ++ l.fuel.toList.map (Flag.fuel, ·)

theorem lookup_given (given : Option String) (flag flag' : Flag) :
    (given.toList.map (flag, ·)).lookup flag' = if flag' = flag then given else none := by
  cases given with
  | none => simp
  | some value => by_cases same : flag' = flag <;> simp [same]

theorem lookup_values (l : RunLine) (flag : Flag) :
    l.values.lookup flag =
      if flag = .interface then l.interface else if flag = .fuel then l.fuel else none := by
  rw [values, List.lookup_append, lookup_given, lookup_given]
  by_cases interface : flag = .interface
  · subst interface
    simp
  · simp [interface]

theorem steps_interface (plain : ∀ i ∈ l.interface, Plain i) (words : List String) :
    Scan.steps ((l.interface.elim [] fun i => ["--interface", i]) ++ words) { level := .run } =
      Scan.steps words
        { level := .run, values := l.interface.toList.map (Flag.interface, ·) } := by
  cases given : l.interface with
  | none => rfl
  | some i => exact Scan.steps_option rfl rfl rfl rfl rfl (plain i given) rfl rfl

theorem steps_fuel {values : List (Flag × String)}
    (reads : Option.Rel (fun text n => readFuel text = some n) l.fuel fuel)
    (fresh : values.lookup .fuel = none) (words : List String) :
    Scan.steps ((l.fuel.elim [] fun f => ["--fuel", f]) ++ words)
        { level := .run, values := values } =
      Scan.steps words
        { level := .run, values := values ++ l.fuel.toList.map (Flag.fuel, ·) } := by
  cases given : l.fuel with
  | none => simp
  | some f =>
    rw [given] at reads
    cases reads with
    | some reads =>
      have accepts : Flag.fuel.accepts f = true := Option.isSome_iff_exists.mpr ⟨_, reads⟩
      exact Scan.steps_option rfl rfl rfl rfl rfl (plain_of_readFuel reads) fresh accepts

theorem read_args {words : List String}
    (reads : List.Forall₂ (fun word v => Value.read word = .ok v) words args) :
    (∀ word ∈ words, ∃ v, Value.read word = .ok v) ∧
      words.filterMap (fun word => (Value.read word).toOption) = args := by
  induction reads with
  | nil => exact ⟨nofun, rfl⟩
  | cons read reads ih =>
    refine ⟨List.forall_mem_cons.mpr ⟨⟨_, read⟩, ih.1⟩, ?_⟩
    have some : (Value.read _).toOption = some _ := congrArg Except.toOption read
    exact (List.filterMap_cons_some (f := fun word => (Value.read word).toOption) some).trans
      (congrArg _ ih.2)

theorem steps_run (well : l.WellFormed fuel args) :
    Scan.steps (l.options ++ l.path :: l.name :: l.args) { level := .run } =
      .ok { level := .run, values := l.values, places := l.path :: l.name :: l.args } := by
  have fresh : (l.interface.toList.map (Flag.interface, ·)).lookup .fuel = none :=
    lookup_given l.interface .interface .fuel
  have path : Level.run.accepts 0 l.path = true := by
    simpa [Level.accepts] using well.path.1
  rw [options, List.append_assoc, steps_interface well.interface, steps_fuel well.fuel fresh]
  refine (Scan.steps_cons (Scan.step_place rfl well.path.2 path)).trans ?_
  refine (Scan.steps_cons (Scan.step_place rfl well.name rfl)).trans ?_
  exact Scan.steps_args rfl rfl (le_refl 2) (read_args well.args).1

theorem program_words (well : l.WellFormed fuel args) :
    Scan.program l.words { level := .program } =
      .ok ({ level := .program, values := l.config.toList.map (Flag.config, ·) },
        { level := .run, values := l.values, places := l.path :: l.name :: l.args }) := by
  have run (s : Scan) (idle : s.pending = none) (early : s.noOptions = false) :
      Scan.program ("run" :: l.options ++ l.path :: l.name :: l.args) s =
        (Scan.steps (l.options ++ l.path :: l.name :: l.args) { level := .run }).map (s, ·) := by
    simp [Scan.program, idle, early, Level.ofWord]
  unfold words
  cases given : l.config with
  | none =>
    refine (run _ rfl rfl).trans ?_
    rw [steps_run well]
    rfl
  | some c =>
    obtain ⟨named, plain⟩ := well.config c given
    have awaits : Scan.step { level := .program } "--config" =
        .ok { level := .program, pending := some .config } := Scan.step_option rfl rfl rfl rfl rfl
    have value : Scan.step { level := .program, pending := some .config } c =
        .ok { level := .program, values := [(.config, c)] } :=
      Scan.step_value rfl rfl plain rfl (by simpa [Flag.accepts] using named)
    exact (Scan.program_option (by decide) rfl awaits).trans
      ((Scan.program_value rfl value).trans ((run _ rfl rfl).trans (by rw [steps_run well]; rfl)))

theorem fuel_of_text
    (reads : Option.Rel (fun text n => readFuel text = some n) l.fuel fuel) :
    l.fuel.bind readFuel = fuel := by
  cases text : l.fuel with
  | none =>
    rw [text] at reads
    cases reads
    rfl
  | some f =>
    rw [text] at reads
    cases reads with
    | some reads => exact reads

theorem read_words (well : l.WellFormed fuel args) {setting : Option String}
    (set : setting ≠ some "") :
    Invocation.read l.words setting =
      .ok ⟨l.config.or setting, false, .run l.path l.name l.interface fuel args⟩ := by
  have command : Command.ofScan
      { level := .run, values := l.values, places := l.path :: l.name :: l.args } =
      .ok (.run l.path l.name l.interface fuel args) := by
    simp only [Command.ofScan, (read_args well.args).2, lookup_values]
    exact congrArg (fun fuel => Except.ok (Command.run l.path l.name l.interface fuel args))
      (fuel_of_text well.fuel)
  simp only [Invocation.read, program_words well, command, bind, Except.bind, if_neg set,
    lookup_values, lookup_given]
  rfl

end RunLine

end ModuleHost.CommandLine
