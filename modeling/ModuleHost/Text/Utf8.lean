namespace ModuleHost.Utf8

inductive Fault where
  | invalid (length index : Nat)
  | incomplete (index : Nat)
  deriving DecidableEq, Repr

def Fault.message : Fault → String
  | .invalid length index =>
    "invalid utf-8 sequence of " ++ toString length ++ " bytes from index " ++ toString index
  | .incomplete index => "incomplete utf-8 byte sequence from index " ++ toString index

structure Lead where
  following : Nat
  low : UInt8
  high : UInt8
  bits : Nat

def lead (b : UInt8) : Option Lead :=
  if b < 0x80 then some ⟨0, 0x80, 0xbf, b.toNat⟩
  else if b < 0xc2 then none
  else if b < 0xe0 then some ⟨1, 0x80, 0xbf, b.toNat - 0xc0⟩
  else if b = 0xe0 then some ⟨2, 0xa0, 0xbf, 0⟩
  else if b = 0xed then some ⟨2, 0x80, 0x9f, 0xd⟩
  else if b < 0xf0 then some ⟨2, 0x80, 0xbf, b.toNat - 0xe0⟩
  else if b = 0xf0 then some ⟨3, 0x90, 0xbf, 0⟩
  else if b < 0xf4 then some ⟨3, 0x80, 0xbf, b.toNat - 0xf0⟩
  else if b = 0xf4 then some ⟨3, 0x80, 0x8f, 4⟩
  else none

structure Pending where
  start : Nat
  missing : Nat
  low : UInt8
  high : UInt8
  bits : Nat

/-- Decode from index `index`, inside a sequence if one is pending; `read` is what was decoded so
far, newest first. -/
def decodeFrom (index : Nat) (pending : Option Pending) (read : List Char) :
    List UInt8 → Except Fault (List Char)
  | [] =>
    match pending with
    | none => .ok read.reverse
    | some p => .error (.incomplete p.start)
  | b :: bs =>
    match pending with
    | none =>
      match lead b with
      | none => .error (.invalid 1 index)
      | some l =>
        if l.following = 0 then
          decodeFrom (index + 1) none (Char.ofNat l.bits :: read) bs
        else
          decodeFrom (index + 1) (some ⟨index, l.following, l.low, l.high, l.bits⟩) read bs
    | some p =>
      if p.low ≤ b ∧ b ≤ p.high then
        let bits := p.bits * 64 + (b.toNat - 0x80)
        if p.missing = 1 then
          decodeFrom (index + 1) none (Char.ofNat bits :: read) bs
        else
          decodeFrom (index + 1) (some ⟨p.start, p.missing - 1, 0x80, 0xbf, bits⟩) read bs
      else
        .error (.invalid (index - p.start) p.start)

def decodeChars (bytes : List UInt8) : Except Fault (List Char) :=
  decodeFrom 0 none [] bytes

def decode (bytes : List UInt8) : Except Fault String :=
  (decodeChars bytes).map String.ofList

def encode (text : String) : List UInt8 :=
  text.toList.flatMap String.utf8EncodeChar

end ModuleHost.Utf8
