import ModuleHost.Text.Digits

namespace ModuleHost

inductive Failure where
  | invalidModule (reason : String)
  | invalidConfig (reason : String)
  | invalidArgument (reason : String)
  | instantiation (reason : String)
  | invalidHandle (handle : UInt64)
  | exportNotFound (name : String)
  | notAFunction (name kind : String)
  | signatureMismatch (name expected actual : String)
  | unsupportedType (name type : String)
  | trap (message : String) (code : Option String)
  | fuelExhausted
  | settings (reason : String)
  | io (cause : String)
  | internal (reason : String)
  deriving DecidableEq, Repr

namespace Failure

def message : Failure → String
  | invalidModule reason => "Invalid module: " ++ reason
  | invalidConfig reason => "Invalid configuration: " ++ reason
  | invalidArgument reason => "Invalid argument: " ++ reason
  | instantiation reason => "Instantiation failed: " ++ reason
  | invalidHandle handle => "Invalid instance handle: " ++ Digits.hex handle.toNat
  | exportNotFound name => "Export not found: " ++ name
  | notAFunction name kind => "Export '" ++ name ++ "' is not a function (found " ++ kind ++ ")"
  | signatureMismatch name expected actual =>
    "Signature mismatch calling '" ++ name ++ "': expected (" ++ expected ++ "), got (" ++
      actual ++ ")"
  | unsupportedType name type => "Unsupported value type in '" ++ name ++ "': " ++ type
  | trap message _ => "Wasm trap: " ++ message
  | fuelExhausted => "Fuel exhausted: CPU limit exceeded"
  | settings reason => "Invalid settings: " ++ reason
  | io cause => "IO error: " ++ cause
  | internal reason => "Internal error: " ++ reason

inductive Group where
  | configuration
  | dispatch
  | trap
  deriving DecidableEq, Repr

def group : Failure → Option Group
  | invalidModule _ | invalidConfig _ | invalidArgument _ | settings _ => some .configuration
  | invalidHandle _ | exportNotFound _ | notAFunction .. | signatureMismatch ..
  | unsupportedType .. => some .dispatch
  | trap .. | fuelExhausted => some .trap
  | instantiation _ | io _ | internal _ => none

def cause : Failure → Option String
  | io cause => some cause
  | _ => none

end Failure

end ModuleHost
