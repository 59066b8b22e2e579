/-! Decoding UTF-8.

A fault names the bytes from the start of the sequence that went wrong up to the byte that
could not continue it.
-/

set_option autoImplicit false

namespace Understudy.Text

inductive Utf8Reason where
  | start
  | continuation
  | ending
  deriving DecidableEq, Repr

structure Utf8Fault where
  reason : Utf8Reason
  /-- The position of the sequence. -/
  position : Nat
  extent : Nat
  firstByte : UInt8
  deriving DecidableEq, Repr

def sequenceShape (b : UInt8) : Option (Nat × Nat × Nat) :=
  let n := b.toNat
  if n < 0xC2 then none
  else if n < 0xE0 then some (0x80, 0xBF, 1)
  else if n == 0xE0 then some (0xA0, 0xBF, 2)
  else if n == 0xED then some (0x80, 0x9F, 2)
  else if n < 0xF0 then some (0x80, 0xBF, 2)
  else if n == 0xF0 then some (0x90, 0xBF, 3)
  else if n < 0xF4 then some (0x80, 0xBF, 3)
  else if n == 0xF4 then some (0x80, 0x8F, 3)
  else none

/-- The bits of a first byte that belong to the code point. -/
def firstBits (b : UInt8) (more : Nat) : Nat := b.toNat % Nat.pow 2 (6 - more)

inductive Utf8State where
  | between
  | inside (first : UInt8) (seen code lo hi more : Nat)

/-- Decode from a state; `position` is that of the next byte. -/
def decodeFrom : Utf8State → Nat → List UInt8 → Except Utf8Fault (List Char)
  | .between, _, [] => .ok []
  | .inside first seen _ _ _ _, position, [] => .error ⟨.ending, position - seen, seen, first⟩
  | .between, position, b :: rest =>
    if b.toNat < 0x80 then (decodeFrom .between (position + 1) rest).map (Char.ofNat b.toNat :: ·)
    else
      match sequenceShape b with
      | none => .error ⟨.start, position, 1, b⟩
      | some (lo, hi, more) =>
        decodeFrom (.inside b 1 (firstBits b more) lo hi more) (position + 1) rest
  | .inside first seen code lo hi more, position, b :: rest =>
    if b.toNat < lo || hi < b.toNat then .error ⟨.continuation, position - seen, seen, first⟩
    else
      let code := code * 64 + b.toNat % 64
      if more ≤ 1 then (decodeFrom .between (position + 1) rest).map (Char.ofNat code :: ·)
      else decodeFrom (.inside first (seen + 1) code 0x80 0xBF (more - 1)) (position + 1) rest

def decodeUtf8 (bytes : List UInt8) : Except Utf8Fault (List Char) := decodeFrom .between 0 bytes

def unifyNewlines : List Char → List Char
  | '\r' :: '\n' :: rest => '\n' :: unifyNewlines rest
  | c :: rest => (if c == '\r' then '\n' else c) :: unifyNewlines rest
  | [] => []

end Understudy.Text
