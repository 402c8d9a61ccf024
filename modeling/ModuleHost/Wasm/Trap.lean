namespace ModuleHost.Wasm

inductive Trap where
  | stackOverflow
  | memoryOutOfBounds
  | tableOutOfBounds
  | indirectCallToNull
  | badSignature
  | integerOverflow
  | integerDivisionByZero
  | badConversionToInteger
  | unreachableCodeReached
  | outOfFuel
  deriving DecidableEq, Repr

namespace Trap

def code : Trap → String
  | stackOverflow => "StackOverflow"
  | memoryOutOfBounds => "MemoryOutOfBounds"
  | tableOutOfBounds => "TableOutOfBounds"
  | indirectCallToNull => "IndirectCallToNull"
  | badSignature => "BadSignature"
  | integerOverflow => "IntegerOverflow"
  | integerDivisionByZero => "IntegerDivisionByZero"
  | badConversionToInteger => "BadConversionToInteger"
  | unreachableCodeReached => "UnreachableCodeReached"
  | outOfFuel => "OutOfFuel"

def message : Trap → String
  | stackOverflow => "wasm trap: call stack exhausted"
  | memoryOutOfBounds => "wasm trap: out of bounds memory access"
  | tableOutOfBounds => "wasm trap: undefined element: out of bounds table access"
  | indirectCallToNull => "wasm trap: uninitialized element"
  | badSignature => "wasm trap: indirect call type mismatch"
  | integerOverflow => "wasm trap: integer overflow"
  | integerDivisionByZero => "wasm trap: integer divide by zero"
  | badConversionToInteger => "wasm trap: invalid conversion to integer"
  | unreachableCodeReached => "wasm trap: wasm `unreachable` instruction executed"
  | outOfFuel => "wasm trap: all fuel consumed by WebAssembly"

end Trap

end ModuleHost.Wasm
