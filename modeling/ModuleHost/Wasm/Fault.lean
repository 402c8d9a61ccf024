namespace ModuleHost.Wasm

inductive IndexSpace where
  | type
  | func
  | table
  | memory
  | global
  | elem
  | data
  | local
  | label
  deriving DecidableEq, Repr

def IndexSpace.name : IndexSpace → String
  | type => "type"
  | func => "function"
  | table => "table"
  | memory => "memory"
  | global => "global"
  | elem => "element segment"
  | data => "data segment"
  | .local => "local"
  | label => "label"

inductive ModuleFault where
  | unexpectedEnd
  | unknownVersion
  | integerTooLong
  | integerTooLarge
  | malformedName
  | malformed (what : String)
  | unknownOpcode (byte : UInt8)
  | unknownSection (id : UInt8)
  | sectionOutOfOrder (id : UInt8)
  | sectionSize (id : UInt8)
  | countMismatch (what : String)
  | tooMany (what : String)
  | text (what : String)
  | unknownIndex (space : IndexSpace) (index : Nat)
  | typeMismatch
  | operandMissing
  | operandsLeft
  | alignmentTooLarge
  | missingLane
  | immutableGlobal (index : Nat)
  | notConstant
  | undeclaredReference (index : Nat)
  | limitsOutOfOrder
  | sizeOutOfBounds (what : String)
  | duplicateExport (name : String)
  | startType
  | disabledType
  | exceedsSlot (what : String)
  deriving DecidableEq, Repr

def ModuleFault.message : ModuleFault → String
  | unexpectedEnd => "unexpected end of the module"
  | unknownVersion => "unknown binary version"
  | integerTooLong => "integer representation too long"
  | integerTooLarge => "integer too large"
  | malformedName => "malformed UTF-8 encoding of a name"
  | malformed what => "malformed " ++ what
  | unknownOpcode byte => "unknown opcode " ++ toString byte.toNat
  | unknownSection id => "unknown section " ++ toString id.toNat
  | sectionOutOfOrder id => "section " ++ toString id.toNat ++ " out of order"
  | sectionSize id => "section " ++ toString id.toNat ++ " has a wrong size"
  | countMismatch what => what ++ " have inconsistent lengths"
  | tooMany what => "too many " ++ what
  | text what => what
  | unknownIndex space index => "unknown " ++ space.name ++ " " ++ toString index
  | typeMismatch => "type mismatch"
  | operandMissing => "type mismatch: nothing on the stack"
  | operandsLeft => "type mismatch: values remaining on the stack at the end of a block"
  | alignmentTooLarge => "alignment must not be larger than natural"
  | missingLane => "invalid lane index"
  | immutableGlobal index => "global " ++ toString index ++ " is immutable"
  | notConstant => "constant expression required"
  | undeclaredReference index => "undeclared function reference " ++ toString index
  | limitsOutOfOrder => "size minimum must not be greater than maximum"
  | sizeOutOfBounds what => what ++ " size out of bounds"
  | duplicateExport name => "duplicate export name '" ++ name ++ "'"
  | startType => "invalid start function type"
  | disabledType => "reference types other than funcref are not enabled"
  | exceedsSlot what => what ++ " exceeds the limit of a pool slot"

end ModuleHost.Wasm
