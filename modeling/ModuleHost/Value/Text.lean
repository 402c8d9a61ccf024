import ModuleHost.Value.Basic
import ModuleHost.Ieee.Decimal

namespace ModuleHost.Value

def writeNumber : Value → List Char
  | i32 v => (toString v.toInt).toList
  | i64 v => (toString v.toInt).toList
  | f32 b => Ieee.binary32.write b.toNat
  | f64 b => Ieee.binary64.write b.toNat
  | v128 v => '0' :: 'x' :: Digits.writePadded 16 32 v.toNat

def write (v : Value) : String :=
  v.kind.name ++ ":" ++ String.ofList v.writeNumber

inductive TextFault where
  | noKind (text : List Char)
  | unknownKind (kind : List Char)
  | badInteger (kind number : List Char) (cause : Digits.Fault)
  | badFloat (kind number : List Char) (cause : Ieee.ReadFault)
  deriving DecidableEq

def TextFault.message : TextFault → String
  | noKind text => "expected TYPE:VALUE, got '" ++ String.ofList text ++ "'"
  | unknownKind kind => "unknown value type '" ++ String.ofList kind ++ "'"
  | badInteger kind number cause =>
    "invalid " ++ String.ofList kind ++ " value '" ++ String.ofList number ++ "': " ++ cause.message
  | badFloat kind number cause =>
    "invalid " ++ String.ofList kind ++ " value '" ++ String.ofList number ++ "': " ++ cause.message

def vectorBound : Nat := 0xffff_ffff_ffff_ffff_ffff_ffff_ffff_ffff

def readVector : List Char → Except Digits.Fault Nat
  | '0' :: 'x' :: digits => Digits.readUnsigned 16 vectorBound digits
  | digits => Digits.readUnsigned 10 vectorBound digits

def readNumber (kind number : List Char) : Except TextFault Value :=
  match String.ofList kind with
  | "i32" =>
    ((Digits.readSigned 10 0x7fff_ffff number).map fun n => i32 (Int32.ofInt n)).mapError
      (.badInteger kind number)
  | "i64" =>
    ((Digits.readSigned 10 0x7fff_ffff_ffff_ffff number).map fun n => i64 (Int64.ofInt n)).mapError
      (.badInteger kind number)
  | "f32" =>
    ((Ieee.binary32.read number).map fun n => f32 (UInt32.ofNat n)).mapError
      (.badFloat kind number)
  | "f64" =>
    ((Ieee.binary64.read number).map fun n => f64 (UInt64.ofNat n)).mapError
      (.badFloat kind number)
  | "v128" =>
    ((readVector number).map fun n => v128 (BitVec.ofNat 128 n)).mapError
      (.badInteger kind number)
  | _ => .error (.unknownKind kind)

def splitAtColon (text : List Char) : Option (List Char × List Char) :=
  match text.dropWhile (· ≠ ':') with
  | [] => none
  | _ :: number => some (text.takeWhile (· ≠ ':'), number)

def readChars (text : List Char) : Except TextFault Value :=
  match splitAtColon text with
  | none => .error (.noKind text)
  | some (kind, number) => readNumber kind number

def read (text : String) : Except Failure Value :=
  (readChars text.toList).mapError fun fault => .invalidArgument fault.message

end ModuleHost.Value
