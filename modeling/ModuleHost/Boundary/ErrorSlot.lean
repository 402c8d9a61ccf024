import ModuleHost.Failure
import ModuleHost.Text.Utf8

namespace ModuleHost.Boundary

abbrev ErrorSlot := Option (List UInt8)

def escapeNul : List Char → List Char
  | [] => []
  | c :: cs => if c = '\x00' then '\\' :: '0' :: escapeNul cs else c :: escapeNul cs

namespace ErrorSlot

def ofFailure (e : Failure) : ErrorSlot :=
  some (Utf8.encode (String.ofList (escapeNul e.message.toList)) ++ [0])

def length (s : ErrorSlot) : Nat :=
  (s.getD []).length

def take (s : ErrorSlot) (capacity : Option Nat) : List UInt8 × ErrorSlot :=
  match capacity with
  | none => ([], s)
  | some capacity => ((s.getD []).take capacity, none)

end ErrorSlot

end ModuleHost.Boundary
