import ModuleHost.Wasm.Memory
import ModuleHost.Wasm.Numeric

namespace ModuleHost.Wasi

open Wasm (Memory Slot ValType FuncType)

def moduleName : String := "wasi_snapshot_preview1"

inductive Service where
  | emptySizes
  | emptyList
  | yield
  | exit
  | close
  | renumber
  | read
  | write
  | random
  | time
  | resolution
  | badDescriptor
  | query
  | ask
  deriving DecidableEq, Repr

structure Call where
  name : String
  type : FuncType
  service : Service
  deriving DecidableEq, Repr

def call (name : String) (params : List ValType) (service : Service) : Call :=
  ⟨name, ⟨params, [.i32]⟩, service⟩

def calls : List Call :=
  [call "args_get" [.i32, .i32] .emptyList,
    call "args_sizes_get" [.i32, .i32] .emptySizes,
    call "environ_get" [.i32, .i32] .emptyList,
    call "environ_sizes_get" [.i32, .i32] .emptySizes,
    call "clock_res_get" [.i32, .i32] .resolution,
    call "clock_time_get" [.i32, .i64, .i32] .time,
    call "fd_advise" [.i32, .i64, .i64, .i32] .ask,
    call "fd_allocate" [.i32, .i64, .i64] .query,
    call "fd_close" [.i32] .close,
    call "fd_datasync" [.i32] .query,
    call "fd_fdstat_get" [.i32, .i32] .query,
    call "fd_fdstat_set_flags" [.i32, .i32] .ask,
    call "fd_fdstat_set_rights" [.i32, .i64, .i64] .ask,
    call "fd_filestat_get" [.i32, .i32] .query,
    call "fd_filestat_set_size" [.i32, .i64] .query,
    call "fd_filestat_set_times" [.i32, .i64, .i64, .i32] .ask,
    call "fd_pread" [.i32, .i32, .i32, .i64, .i32] .query,
    call "fd_prestat_get" [.i32, .i32] .badDescriptor,
    call "fd_prestat_dir_name" [.i32, .i32, .i32] .badDescriptor,
    call "fd_pwrite" [.i32, .i32, .i32, .i64, .i32] .query,
    call "fd_read" [.i32, .i32, .i32, .i32] .read,
    call "fd_readdir" [.i32, .i32, .i32, .i64, .i32] .query,
    call "fd_renumber" [.i32, .i32] .renumber,
    call "fd_seek" [.i32, .i64, .i32, .i32] .ask,
    call "fd_sync" [.i32] .query,
    call "fd_tell" [.i32, .i32] .query,
    call "fd_write" [.i32, .i32, .i32, .i32] .write,
    call "path_create_directory" [.i32, .i32, .i32] .ask,
    call "path_filestat_get" [.i32, .i32, .i32, .i32, .i32] .ask,
    call "path_filestat_set_times" [.i32, .i32, .i32, .i32, .i64, .i64, .i32] .ask,
    call "path_link" [.i32, .i32, .i32, .i32, .i32, .i32, .i32] .ask,
    call "path_open" [.i32, .i32, .i32, .i32, .i32, .i64, .i64, .i32, .i32] .ask,
    call "path_readlink" [.i32, .i32, .i32, .i32, .i32, .i32] .ask,
    call "path_remove_directory" [.i32, .i32, .i32] .ask,
    call "path_rename" [.i32, .i32, .i32, .i32, .i32, .i32] .ask,
    call "path_symlink" [.i32, .i32, .i32, .i32, .i32] .ask,
    call "path_unlink_file" [.i32, .i32, .i32] .ask,
    call "poll_oneoff" [.i32, .i32, .i32, .i32] .ask,
    ⟨"proc_exit", ⟨[.i32], []⟩, .exit⟩,
    call "proc_raise" [.i32] .ask,
    call "sched_yield" [] .yield,
    call "random_get" [.i32, .i32] .random,
    call "sock_accept" [.i32, .i32, .i32] .ask,
    call "sock_recv" [.i32, .i32, .i32, .i32, .i32, .i32] .ask,
    call "sock_send" [.i32, .i32, .i32, .i32, .i32] .ask,
    call "sock_shutdown" [.i32, .i32] .ask]

/-- What one guest has opened, each descriptor with the standard stream behind it, and how often it
has asked the world outside. -/
structure Context where
  streams : List (Nat × Nat)
  asked : Nat
  deriving DecidableEq, Repr

def Context.initial : Context :=
  ⟨[(0, 0), (1, 1), (2, 2)], 0⟩

def Context.stream (c : Context) (fd : Nat) : Option Nat :=
  c.streams.lookup fd

def Context.close (c : Context) (fd : Nat) : Context :=
  { c with streams := c.streams.filter (·.1 ≠ fd) }

def Context.ask (c : Context) : Context :=
  { c with asked := c.asked + 1 }

def badDescriptor : Nat := 8

def invalid : Nat := 28

inductive Clock where
  | realtime
  | monotonic
  deriving DecidableEq, Repr

inductive Answer where
  | returns (error : UInt16) (stores : List (Nat × List UInt8))
  | ends (message : String)

/-- What guests can learn of the world outside. The first number counts what a guest has asked
before. -/
structure Outside where
  random : Nat → Nat → UInt8
  time : Clock → Nat → UInt64
  resolution : Clock → UInt64
  answer : Nat → Call → List Slot → Memory → Answer
  monotonic : ∀ asked, time .monotonic asked ≤ time .monotonic (asked + 1)

def Outside.still : Outside where
  random _ _ := 0
  time _ _ := 0
  resolution _ := 1
  answer _ _ _ _ := .returns (UInt16.ofNat badDescriptor) []
  monotonic _ := UInt64.le_refl 0

/-- How a call ends: with results for the guest, or by ending the guest's own run. What the call
has stored by then stays. -/
inductive Outcome where
  | returns (results : List Slot) (memory : Memory) (context : Context)
  | ends (message : String) (memory : Memory) (context : Context)

def region (a count : Nat) : String :=
  "Region \x7b start: " ++ toString a ++ ", len: " ++ toString count ++ " \x7d"

def checkRange (m : Memory) (align a count : Nat) : Except String Unit :=
  if a % align ≠ 0 then
    .error ("Pointer not aligned to " ++ toString align ++ ": " ++ region a count)
  else if m.contains a count then .ok ()
  else .error ("Pointer out of bounds: " ++ region a count)

def readWord (m : Memory) (a : Nat) : Except String Nat :=
  (checkRange m 4 a 4).map fun _ => m.readNat a 4

def put (m : Memory) (align a : Nat) (bytes : List UInt8) : Except String Memory :=
  (checkRange m align a bytes.length).map fun _ => m.write a bytes

def writeWord (m : Memory) (a n : Nat) : Except String Memory :=
  put m 4 a (littleEndian 4 n)

def putAll (m : Memory) : List (Nat × List UInt8) → Except String Memory
  | [] => .ok m
  | (a, bytes) :: stores => do putAll (← put m 1 a bytes) stores

def Outcome.ofStored (error : Nat) (m : Memory) (c : Context) : Except String Memory → Outcome
  | .ok m => .returns [error] m c
  | .error message => .ends message m c

def firstBuffer (m : Memory) (a : Nat) : Nat → Except String (Option (Nat × Nat))
  | 0 => .ok none
  | count + 1 => do
    let start ← readWord m a
    let size ← readWord m (a + 4)
    if size = 0 then firstBuffer m (a + 8) count else return some (start, size)

def transfer (m : Memory) (moved : Nat → Nat) (buffers count result : Nat) :
    Except String Memory := do
  match ← firstBuffer m buffers count with
  | none => writeWord m result 0
  | some (start, size) =>
    checkRange m 1 start (moved size)
    writeWord m result (moved size)

def tell (m : Memory) (c : Context) (clock result : Nat) (told : Clock → UInt64) : Outcome :=
  let store (clock : Clock) : Outcome :=
    .ofStored 0 m c.ask (put m 8 result (littleEndian 8 (told clock).toNat))
  match clock with
  | 0 => store .realtime
  | 1 => store .monotonic
  | 2 | 3 => .returns [badDescriptor] m c
  | _ => .returns [invalid] m c

def askOutside (world : Outside) (call : Call) (args : List Slot) (m : Memory) (c : Context) :
    Outcome :=
  match world.answer c.asked call args m with
  | .returns error stores => .ofStored error.toNat m c.ask (putAll m stores)
  | .ends message => .ends message m c.ask

def serve (world : Outside) (call : Call) (args : List Slot) (m : Memory) (c : Context) :
    Outcome :=
  match call.service, args with
  | .emptyList, _ => .returns [0] m c
  | .yield, _ => .returns [0] m c
  | .emptySizes, [count, size] =>
    match writeWord m count 0 with
    | .ok m => .ofStored 0 m c (writeWord m size 0)
    | .error message => .ends message m c
  | .exit, [status] =>
    if status < 126 then .ends ("Exited with i32 exit status " ++ toString status) m c
    else .ends "exit with invalid exit status outside of [0..126)" m c
  | .close, [fd] =>
    if (c.stream fd).isSome then .returns [0] m (c.close fd) else .returns [badDescriptor] m c
  | .renumber, [fd, target] =>
    match c.stream fd with
    | some stream =>
      .returns [0] m { c with streams := (target, stream) :: ((c.close fd).close target).streams }
    | none => .returns [badDescriptor] m c
  | .read, [fd, buffers, count, result] =>
    if c.stream fd = some 0 then .ofStored 0 m c (transfer m (fun _ => 0) buffers count result)
    else .returns [badDescriptor] m c
  | .write, [fd, buffers, count, result] =>
    if (c.stream fd).any (0 < ·) then .ofStored 0 m c (transfer m id buffers count result)
    else .returns [badDescriptor] m c
  | .random, [buffer, count] =>
    .ofStored 0 m c.ask ((checkRange m 1 buffer count).map fun _ =>
      m.write buffer ((List.range count).map (world.random c.asked)))
  | .time, [clock, _, result] => tell m c clock result (world.time · c.asked)
  | .resolution, [clock, result] => tell m c clock result world.resolution
  | .query, fd :: args =>
    if (c.stream fd).isSome then askOutside world call (fd :: args) m c
    else .returns [badDescriptor] m c
  | .ask, args => askOutside world call args m c
  | _, _ => .returns [badDescriptor] m c

end ModuleHost.Wasi
