namespace ModuleHost.Wasm

inductive ValType where
  | i32
  | i64
  | f32
  | f64
  | v128
  | funcref
  | externref
  deriving DecidableEq, Repr, Inhabited

namespace ValType

def name : ValType → String
  | i32 => "i32"
  | i64 => "i64"
  | f32 => "f32"
  | f64 => "f64"
  | v128 => "v128"
  | funcref => "funcref"
  | externref => "externref"

def text : ValType → String
  | funcref => "(ref null func)"
  | externref => "(ref null extern)"
  | t => t.name

def isReference : ValType → Bool
  | funcref | externref => true
  | _ => false

end ValType

structure FuncType where
  params : List ValType
  results : List ValType
  deriving DecidableEq, Repr, Inhabited

def FuncType.text (t : FuncType) : String :=
  let part (word : String) (types : List ValType) : String :=
    if types.isEmpty then ""
    else " (" ++ word ++ types.foldl (fun acc v => acc ++ " " ++ v.name) "" ++ ")"
  "(func" ++ part "param" t.params ++ part "result" t.results ++ ")"

structure Limits where
  min : Nat
  max : Option Nat
  deriving DecidableEq, Repr, Inhabited

structure TableType where
  element : ValType
  limits : Limits
  deriving DecidableEq, Repr, Inhabited

structure GlobalType where
  value : ValType
  isMutable : Bool
  deriving DecidableEq, Repr, Inhabited

end ModuleHost.Wasm
