import ModuleHost.Runtime

namespace ModuleHost

structure Engine where
  settings : Settings.Engine
  runtime : Runtime

namespace Engine

def reservedBytes : Nat := 0x1_0000_0000

variable [Runtime]

def refusal (s : Settings.Engine) : Option String :=
  if s.stackKb = 0 then some "max_wasm_stack size cannot be zero"
  else if s.pooling ∧ reservedBytes < s.slotBytes then
    some ("maximum memory size of " ++ Digits.hex s.slotBytes ++
      " bytes exceeds the configured memory reservation of " ++ Digits.hex reservedBytes ++
      " bytes")
  else if s.pooling then Runtime.shortage s
  else none

def create (s : Settings.Engine) : Except Failure Engine :=
  match refusal s with
  | some reason => .error (.invalidConfig ("Failed to create Wasmtime engine: " ++ reason))
  | none => .ok ⟨s, inferInstance⟩

def describe (e : Engine) : String :=
  "WasmEngine \x7b pooling_allocator: " ++ toString e.settings.pooling ++
    ", consume_fuel: " ++ toString e.settings.metered ++
    ", wasi: " ++ toString e.settings.wasi ++ ", .. \x7d"

end Engine

end ModuleHost
