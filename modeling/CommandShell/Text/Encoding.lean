import CommandShell.Text.Basic

/-!
# UTF-8

Decoding reads bytes from left to right. A lead byte fixes how many continuation bytes follow and
narrows the range of the first of them, so that overlong forms, surrogates and code points past
the last one are refused at the earliest byte that gives them away. A refusal names the bytes of
the broken sequence: those read so far, without the byte that does not continue them.
-/

namespace CommandShell.Text

/-- What is wrong with a sequence of bytes. -/
inductive EncodingFault where
  | invalidStart
  | invalidContinuation
  | unexpectedEnd
  deriving DecidableEq, Repr

/-- A broken sequence: where it starts, its first byte, its length and its fault. -/
structure EncodingError where
  position : Nat
  lead : UInt8
  length : Nat
  fault : EncodingFault
  deriving DecidableEq, Repr

/-- A sequence begun: what an error would name, the code so far and the bytes still to come. -/
structure Sequence where
  position : Nat
  lead : UInt8
  seen : Nat
  code : Nat
  missing : Nat
  low : Nat
  high : Nat

namespace Sequence

/-- The sequence that `lead` begins with `missing` continuation bytes, the first in a range. -/
def start (position : Nat) (lead : UInt8) (code missing low high : Nat) : Sequence :=
  ⟨position, lead, 1, code, missing, low, high⟩

/-- The sequence broken off here. -/
def error (s : Sequence) (fault : EncodingFault) : EncodingError :=
  ⟨s.position, s.lead, s.seen, fault⟩

/-- The sequence with one more continuation byte. -/
def push (s : Sequence) (byte : UInt8) : Sequence :=
  { s with
    seen := s.seen + 1
    code := s.code * 64 + byte.toNat % 64
    missing := s.missing - 1
    low := 0x80
    high := 0xbf }

end Sequence

/-- The sequence that a lead byte of two or more bytes begins. -/
def sequence? (position : Nat) (lead : UInt8) : Option Sequence :=
  let n := lead.toNat
  if 0xc2 ≤ n ∧ n ≤ 0xdf then some (.start position lead (n - 0xc0) 1 0x80 0xbf)
  else if n = 0xe0 then some (.start position lead 0 2 0xa0 0xbf)
  else if n = 0xed then some (.start position lead 0xd 2 0x80 0x9f)
  else if 0xe1 ≤ n ∧ n ≤ 0xef then some (.start position lead (n - 0xe0) 2 0x80 0xbf)
  else if n = 0xf0 then some (.start position lead 0 3 0x90 0xbf)
  else if n = 0xf4 then some (.start position lead 4 3 0x80 0x8f)
  else if 0xf1 ≤ n ∧ n ≤ 0xf3 then some (.start position lead (n - 0xf0) 3 0x80 0xbf)
  else none

/-- The text of the bytes from `position` on, with `pending` the sequence begun before them. -/
def decodeFrom (position : Nat) (pending : Option Sequence) :
    List UInt8 → Except EncodingError Text
  | [] =>
    match pending with
    | some s => .error (s.error .unexpectedEnd)
    | none => .ok []
  | byte :: rest =>
    match pending with
    | some s =>
      if s.low ≤ byte.toNat ∧ byte.toNat ≤ s.high then
        let s := s.push byte
        if s.missing = 0 then (decodeFrom (position + 1) none rest).map (Char.ofNat s.code :: ·)
        else decodeFrom (position + 1) (some s) rest
      else .error (s.error .invalidContinuation)
    | none =>
      if byte.toNat < 0x80 then
        (decodeFrom (position + 1) none rest).map (Char.ofNat byte.toNat :: ·)
      else
        match sequence? position byte with
        | some s => decodeFrom (position + 1) (some s) rest
        | none => .error ⟨position, byte, 1, .invalidStart⟩

/-- The text that the bytes encode. -/
def decode (bytes : List UInt8) : Except EncodingError Text :=
  decodeFrom 0 none bytes

/-- The number of bytes that encode `t`. -/
def encodedLength : Text → Nat
  | [] => 0
  | c :: rest => c.utf8Size + encodedLength rest

end CommandShell.Text
