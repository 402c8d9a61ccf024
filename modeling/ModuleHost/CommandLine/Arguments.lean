import ModuleHost.Value.Text

namespace ModuleHost.CommandLine

inductive Command where
  | run (module function : String) (interface : Option String) (fuel : Option UInt64)
    (args : List Value)
  | inspect (module : String)
  deriving DecidableEq

structure Invocation where
  config : Option String
  jsonLogs : Bool
  command : Command
  deriving DecidableEq

inductive Refusal where
  | usage
  | help
  | version
  deriving DecidableEq, Repr

inductive Flag where
  | config
  | jsonLogs
  | interface
  | fuel
  | help
  | version
  deriving DecidableEq, Repr

def Flag.takesValue : Flag → Bool
  | config | interface | fuel => true
  | _ => false

def readFuel (text : String) : Option UInt64 :=
  (Digits.readUnsigned 10 (UInt64.size - 1) text.toList).toOption.map UInt64.ofNat

def Flag.accepts (flag : Flag) (text : String) : Bool :=
  match flag with
  | config => !text.isEmpty
  | fuel => (readFuel text).isSome
  | _ => true

inductive Level where
  | program
  | run
  | inspect
  deriving DecidableEq, Repr

namespace Level

def ofWord : String → Option Level
  | "run" => some run
  | "inspect" => some inspect
  | _ => none

def flags (level : Level) : List (String × Flag) :=
  [("config", .config), ("json-logs", .jsonLogs), ("help", .help)] ++
    match level with
    | program => [("version", .version)]
    | run => [("interface", .interface), ("fuel", .fuel)]
    | inspect => []

def letters : Level → List (Char × Flag)
  | program => [('h', .help), ('V', .version)]
  | _ => [('h', .help)]

def accepts (level : Level) (place : Nat) (word : String) : Bool :=
  match level, place with
  | program, _ => false
  | run, 0 => !word.isEmpty
  | run, 1 => true
  | run, _ => (Value.read word).toOption.isSome
  | inspect, 0 => !word.isEmpty
  | inspect, _ => false

end Level

inductive Shape where
  | dashes
  | long (name : String) (attached : Option String)
  | letters (letters : List Char)
  | plain
  deriving DecidableEq, Repr

def Shape.ofWord (word : String) : Shape :=
  match word.toList with
  | ['-', '-'] => .dashes
  | '-' :: '-' :: cs =>
    let name := String.ofList (cs.takeWhile (· ≠ '='))
    match cs.dropWhile (· ≠ '=') with
    | [] => .long name none
    | _ :: value => .long name (some (String.ofList value))
  | ['-'] => .plain
  | '-' :: cs => .letters cs
  | _ => .plain

structure Scan where
  level : Level
  values : List (Flag × String) := []
  pending : Option Flag := none
  places : List String := []
  noOptions : Bool := false

namespace Scan

variable (s : Scan)

def mayBeHyphenated : Bool :=
  s.level = .run ∧ 2 ≤ s.places.length

def isPastOptions : Bool :=
  s.noOptions ∨ s.level = .run ∧ 3 ≤ s.places.length

def give (flag : Flag) (value : String) : Except Refusal Scan :=
  if (s.values.lookup flag).isSome ∨ !flag.accepts value then .error .usage
  else .ok { s with values := s.values ++ [(flag, value)], pending := none }

def place (word : String) : Except Refusal Scan :=
  if s.level.accepts s.places.length word then .ok { s with places := s.places ++ [word] }
  else .error .usage

def addWord (word : String) : Except Refusal Scan :=
  match s.pending with
  | some flag => s.give flag word
  | none => s.place word

def addFlag (flag : Flag) (attached : Option String) : Except Refusal Scan :=
  if s.pending.isSome then .error .usage
  else
    match flag, attached with
    | .help, none => .error .help
    | .version, none => .error .version
    | flag, some value => if flag.takesValue then s.give flag value else .error .usage
    | flag, none =>
      if flag.takesValue then .ok { s with pending := some flag } else s.give flag ""

def step (word : String) : Except Refusal Scan :=
  if s.isPastOptions then s.place word
  else
    match Shape.ofWord word with
    | .plain => s.addWord word
    | .dashes => if s.pending.isSome then .error .usage else .ok { s with noOptions := true }
    | .long name attached =>
      match s.level.flags.lookup name with
      | some flag => s.addFlag flag attached
      | none => if s.mayBeHyphenated then s.addWord word else .error .usage
    | .letters letters =>
      if s.mayBeHyphenated ∧ letters.any fun c => (s.level.letters.lookup c).isNone then
        s.addWord word
      else
        match letters.head?.bind fun c => s.level.letters.lookup c with
        | some flag => s.addFlag flag none
        | none => .error .usage

def steps : List String → Scan → Except Refusal Scan
  | [], s => if s.pending.isSome then .error .usage else .ok s
  | word :: words, s => s.step word >>= steps words

def program : List String → Scan → Except Refusal (Scan × Scan)
  | [], _ => .error .usage
  | word :: words, s =>
    if s.noOptions ∨ s.pending.isSome then s.step word >>= program words
    else if word = "help" then .error .help
    else
      match Level.ofWord word with
      | some level => (steps words { level }).map fun sub => (s, sub)
      | none => s.step word >>= program words

end Scan

def Command.ofScan (s : Scan) : Except Refusal Command :=
  match s.level, s.places with
  | .run, module :: name :: args =>
    let args := args.filterMap fun a => (Value.read a).toOption
    .ok (.run module name (s.values.lookup .interface)
      ((s.values.lookup .fuel).bind readFuel) args)
  | .inspect, [module] => .ok (.inspect module)
  | _, _ => .error .usage

/-- Read a command line. An environment variable stands for the option that names the settings;
set to nothing, it makes no sense. -/
def Invocation.read (words : List String) (setting : Option String) :
    Except Refusal Invocation := do
  let (program, sub) ← Scan.program words { level := .program }
  let command ← Command.ofScan sub
  if setting = some "" then .error .usage
  let value (flag : Flag) := (sub.values.lookup flag).or (program.values.lookup flag)
  return ⟨(value .config).or setting, (value .jsonLogs).isSome, command⟩

end ModuleHost.CommandLine
