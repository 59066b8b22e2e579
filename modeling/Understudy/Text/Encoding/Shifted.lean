import Understudy.Text.Encoding.Way
import Understudy.Value.Reader
import Understudy.Value.Writer

/-! Texts in ASCII with shifted runs.

Most ASCII characters stand for themselves. A run of others is written between a plus and a minus
as units of sixteen bits, six bits to a character; the minus may be left out where the next
character ends the run anyhow.
-/

set_option autoImplicit false

namespace Understudy.Text.Shifted

def digits : List Char :=
  "ABCDEFGHIJKLMNOPQRSTUVWXYZabcdefghijklmnopqrstuvwxyz0123456789+/".toList

def digitValue? (c : Char) : Option Nat := digits.idxOf? c

def isDigit (c : Char) : Bool := (digitValue? c).isSome

def isDirect (c : Char) : Bool :=
  c == '\t' || c == '\n' || c == '\r'
    || 0x20 ≤ c.toNat && c.toNat < 0x7e && c != '+' && c != '\\'

def digitsOf (units : List Nat) : List Char :=
  let bits := 16 * units.length
  let count := (bits + 5) / 6
  let number := units.foldl (fun n unit => Nat.pow 2 16 * n + unit) 0 * Nat.pow 2 (6 * count - bits)
  (List.range count).map fun place =>
    digits.getD (number / Nat.pow 2 (6 * (count - 1 - place)) % 64) 'A'

def encodeWith : Nat → List Char → List Char
  | 0, _ | _, [] => []
  | fuel + 1, '+' :: rest => '+' :: '-' :: encodeWith fuel rest
  | fuel + 1, c :: rest =>
    if isDirect c then c :: encodeWith fuel rest
    else
      let run := (c :: rest).takeWhile (!isDirect ·)
      let after := (c :: rest).dropWhile (!isDirect ·)
      let closing := after.head?.all fun c => isDigit c || c == '-'
      '+' :: digitsOf (run.flatMap Value.units16) ++ (if closing then ['-'] else [])
        ++ encodeWith fuel after

def encode (s : List Char) : List Char := encodeWith s.length s

/-- A run that is being read. -/
structure Run where
  seen : List Char
  bits : Nat
  count : Nat
  half : Option Nat

def takeUnit (half : Option Nat) (unit : Nat) : List Char × Option Nat :=
  let alone : List Char × Option Nat :=
    if Value.isHighHalf unit then ([], some unit) else ([Value.unitChar unit], none)
  match half with
  | some high =>
    if Value.isLowHalf unit then ([Value.joinHalves high unit], none)
    else (Value.unitChar high :: alone.1, alone.2)
  | none => alone

def Run.takeDigit (r : Run) (c : Char) (value : Nat) : List Char × Run :=
  let bits := 64 * r.bits + value
  let count := r.count + 6
  if count < 16 then ([], { r with seen := c :: r.seen, bits, count })
  else
    let left := Nat.pow 2 (count - 16)
    let (text, half) := takeUnit r.half (bits / left)
    (text, ⟨c :: r.seen, bits % left, count - 16, half⟩)

/-- Whether a run may end where it stands: nothing is left over but zeros to fill up a digit. -/
def Run.isWhole (r : Run) : Bool := r.count < 6 && r.bits == 0

def decodeWith (way : String) : Nat → Option Run → List Char → Except Slip (List Char)
  | 0, _, _ | _, none, [] => .ok []
  | _, some run, [] =>
    if run.isWhole && run.half.isNone then .ok [] else faulty run.seen
  | fuel + 1, none, '+' :: rest =>
    match rest with
    | '-' :: rest => do return '+' :: (← decodeWith way fuel none rest)
    | c :: after =>
      if isDigit c then decodeWith way fuel (some ⟨['+'], 0, 0, none⟩) rest
      else do return (← faulty [c, '+']) ++ (← decodeWith way fuel none after)
    | [] => .ok []
  | fuel + 1, none, c :: rest =>
    if c.toNat < 0x80 then do return c :: (← decodeWith way fuel none rest)
    else do return (← faulty [c]) ++ (← decodeWith way fuel none rest)
  | fuel + 1, some run, c :: rest =>
    match digitValue? c with
    | some value => do
      let (text, run) := run.takeDigit c value
      return text ++ (← decodeWith way fuel (some run) rest)
    | none =>
      if !run.isWhole then do
        return (← faulty (c :: run.seen)) ++ (← decodeWith way fuel none rest)
      else do
        let leftOver := if c.toNat < 0x80 && c != '+' then run.half.toList else []
        return leftOver.map Value.unitChar
          ++ (← decodeWith way fuel none (if c == '-' then rest else c :: rest))
where
  faulty (seen : List Char) : Except Slip (List Char) :=
    substituteBytes way (seen.reverse.map fun c => UInt8.ofNat c.toNat)

def decode (way : String) (s : List Char) : Except Slip (List Char) :=
  decodeWith way (2 * s.length + 1) none s

end Understudy.Text.Shifted
