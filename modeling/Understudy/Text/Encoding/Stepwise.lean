import Understudy.Text.Chart.Basic
import Understudy.Text.Encoding.Way

/-! Encodings that go step by step: some characters are some bytes.

Some of them switch between sets of characters. What is switched on is handed on from step to step
and switched off in the end.
-/

set_option autoImplicit false

namespace Understudy.Text

/-- What bytes begin with. -/
inductive Reading where
  | chars (text : List Char) (taken : Nat)
  | fault (extent : Nat)
  | cut
  deriving DecidableEq, Repr

/-- An encoding by its steps; `σ` is what can be switched on. -/
structure Stepwise (σ : Type) where
  start : σ
  /-- The bytes of the first characters of a text, the number of these, and what is switched on
  then. -/
  write : σ → List Char → Option (List UInt8 × Nat × σ)
  close : σ → List UInt8
  read : σ → List UInt8 → Reading × σ

namespace Stepwise

variable {σ : Type} (e : Stepwise σ)

def writeAll : Nat → σ → List Char → Except Slip (List UInt8 × σ)
  | 0, s, _ | _, s, [] => .ok ([], s)
  | fuel + 1, s, text =>
    match e.write s text with
    | some (bytes, count, s) => do
      let (more, s) ← writeAll fuel s (text.drop count)
      return (bytes ++ more, s)
    | none => .error .unencodable

/-- The bytes of a text; what stands for a character that is lacking has to be there. The fuel
bounds its length. -/
def writeWith (way : String) : Nat → σ → List Char → Except Slip (List UInt8 × σ)
  | 0, s, _ | _, s, [] => .ok ([], s)
  | fuel + 1, s, c :: rest => do
    let (bytes, count, s) ←
      match e.write s (c :: rest) with
      | some step => pure step
      | none =>
        let instead ← substitute way c
        let (bytes, s) ← e.writeAll instead.length s instead
        pure (bytes, 1, s)
    let (more, s) ← writeWith way fuel s ((c :: rest).drop count)
    return (bytes ++ more, s)

def encode (way : String) (s : List Char) : Except Slip (List UInt8) := do
  let (bytes, switched) ← e.writeWith way s.length e.start s
  return bytes ++ e.close switched

def readWith (way : String) : Nat → σ → List UInt8 → Except Slip (List Char)
  | 0, _, _ | _, _, [] => .ok []
  | fuel + 1, s, data =>
    match e.read s data with
    | (.chars text taken, s) => do return text ++ (← readWith way fuel s (data.drop taken))
    | (.fault extent, s) => do
      return (← substituteBytes way (data.take extent))
        ++ (← readWith way fuel s (data.drop extent))
    | (.cut, _) => substituteBytes way data

def decode (way : String) (data : List UInt8) : Except Slip (List Char) :=
  e.readWith way data.length e.start data

/-- An encoding that switches nothing and in which ASCII stands for itself: the bytes of other
characters, the number of these, and what two or more bytes begin with. -/
def plain (write : List Char → Option (List UInt8 × Nat)) (read : List UInt8 → Reading) :
    Stepwise Unit where
  start := ()
  write := fun _ text =>
    match text with
    | [] => none
    | c :: _ =>
      if c.toNat < 0x80 then some ([UInt8.ofNat c.toNat], 1, ())
      else (write text).map fun (bytes, count) => (bytes, count, ())
  close := fun _ => []
  read := fun _ data =>
    match data with
    | [] => (.cut, ())
    | b :: _ => (if b.toNat < 0x80 then .chars [Char.ofNat b.toNat] 1 else read data, ())

def single (bytesOf? : Char → Option (List UInt8)) (read : List UInt8 → Reading) :
    Stepwise Unit :=
  plain (fun text => text.head?.bind fun c => (bytesOf? c).map (·, 1)) read

end Stepwise

def pairBytes (place : Nat × Nat) : List UInt8 := [UInt8.ofNat place.1, UInt8.ofNat place.2]

def highBytes (place : Nat × Nat) : List UInt8 := pairBytes (place.1 + 0x80, place.2 + 0x80)

def Chart.charAtHigh? (chart : Chart) (a b : Nat) : Option Char :=
  if 0x80 ≤ a && 0x80 ≤ b then chart.charAt? (a - 0x80) (b - 0x80) else none

def Reading.ofChar (taken : Nat) : Option Char → Reading
  | some c => .chars [c] taken
  | none => .fault 1

def readPair (charAt? : Nat → Nat → Option Char) : List UInt8 → Reading
  | a :: b :: _ => .ofChar 2 (charAt? a.toNat b.toNat)
  | _ => .cut

end Understudy.Text
