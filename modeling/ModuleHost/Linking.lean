import ModuleHost.Wasi
import ModuleHost.Wasm.Module

namespace ModuleHost.Linking

open Wasm (Import ImportType FuncType)

inductive Fault where
  | unknown (i : Import)
  | wrongType (i : Import) (expected found : FuncType)
  | wrongKind (i : Import) (expected : String)

def quote (i : Import) : String :=
  "`" ++ i.moduleName ++ "::" ++ i.name ++ "`"

def Fault.message : Fault → String
  | unknown i => "unknown import: " ++ quote i ++ " has not been defined"
  | wrongType i expected found =>
    "incompatible import type for " ++ quote i ++ ": types incompatible: expected type `" ++
      expected.text ++ "`, found type `" ++ found.text ++ "`"
  | wrongKind i expected =>
    "incompatible import type for " ++ quote i ++ ": expected " ++ expected ++
      ", but found function"

def find (wasi : Bool) (i : Import) : Option Wasi.Call :=
  if wasi ∧ i.moduleName = Wasi.moduleName then Wasi.calls.find? (·.name = i.name) else none

def findAll (wasi : Bool) : List Import → Except Fault (List (Import × Wasi.Call))
  | [] => .ok []
  | i :: is =>
    match find wasi i with
    | none => .error (.unknown i)
    | some call => (findAll wasi is).map ((i, call) :: ·)

def checkType (types : Array FuncType) (i : Import) (call : Wasi.Call) : Except Fault Unit :=
  match i.type with
  | .func t =>
    let expected := types.getD t ⟨[], []⟩
    if expected = call.type then .ok () else .error (.wrongType i expected call.type)
  | .table _ => .error (.wrongKind i "table")
  | .memory _ => .error (.wrongKind i "memory")
  | .global _ => .error (.wrongKind i "global")

def resolve (wasi : Bool) (m : Wasm.Module) : Except Fault (List Wasi.Call) := do
  let found ← findAll wasi m.imports
  found.forM fun (i, call) => checkType m.types i call
  return found.map Prod.snd

end ModuleHost.Linking
