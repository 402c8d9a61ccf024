import ModuleHost.Text.Digits
import ModuleHost.Value.Basic

namespace ModuleHost

structure Sip where
  v0 : UInt64
  v1 : UInt64
  v2 : UInt64
  v3 : UInt64

namespace Sip

def initial : Sip :=
  ⟨0x736f6d6570736575, 0x646f72616e646f6d, 0x6c7967656e657261, 0x7465646279746573⟩

def rotate (a count : UInt64) : UInt64 :=
  (a <<< count) ||| (a >>> (64 - count))

def round (s : Sip) : Sip :=
  let v0 := s.v0 + s.v1
  let v1 := rotate s.v1 13 ^^^ v0
  let v0 := rotate v0 32
  let v2 := s.v2 + s.v3
  let v3 := rotate s.v3 16 ^^^ v2
  let v0 := v0 + v3
  let v3 := rotate v3 21 ^^^ v0
  let v2 := v2 + v1
  let v1 := rotate v1 17 ^^^ v2
  let v2 := rotate v2 32
  ⟨v0, v1, v2, v3⟩

def absorb (s : Sip) (word : UInt64) : Sip :=
  let s := { s with v3 := s.v3 ^^^ word }.round
  { s with v0 := s.v0 ^^^ word }

def absorbBytes (total : Nat) : List UInt8 → Sip → Sip
  | b0 :: b1 :: b2 :: b3 :: b4 :: b5 :: b6 :: b7 :: rest, s =>
    absorbBytes total rest
      (s.absorb (UInt64.ofNat (ofLittleEndian [b0, b1, b2, b3, b4, b5, b6, b7])))
  | rest, s => s.absorb (UInt64.ofNat (ofLittleEndian rest + 0x100_0000_0000_0000 * (total % 256)))

def finish (s : Sip) : UInt64 :=
  let s := { s with v2 := s.v2 ^^^ 0xff }.round.round.round
  s.v0 ^^^ s.v1 ^^^ s.v2 ^^^ s.v3

def hash (bytes : List UInt8) : UInt64 :=
  (absorbBytes bytes.length bytes initial).finish

end Sip

def fingerprint (bytes : List UInt8) : String :=
  let hash := Sip.hash (littleEndian 8 bytes.length ++ bytes)
  String.ofList (Digits.writePadded 16 16 hash.toNat)

end ModuleHost
