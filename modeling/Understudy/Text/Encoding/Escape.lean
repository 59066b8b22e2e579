import Understudy.Text.Encoding.Way
import Understudy.Value.Reader

/-! Texts written with escapes.

In full, everything but printable ASCII is escaped, by a letter or by its number. In raw form only
characters beyond one byte are, and a backslash stands for itself unless the number of a character
follows.
-/

set_option autoImplicit false

namespace Understudy.Text

def escapedChar (c : Char) : List Char :=
  if c == '\\' then ['\\', '\\']
  else if c == '\n' then ['\\', 'n']
  else if c == '\r' then ['\\', 'r']
  else if c == '\t' then ['\\', 't']
  else if 0x20 ≤ c.toNat && c.toNat < 0x7f then [c]
  else numberedChar c

def rawEscapedChar (c : Char) : List Char := if c.toNat < 0x100 then [c] else numberedChar c

def isOctalDigit (c : Char) : Bool := '0' ≤ c && c ≤ '7'

def letterEscape? : Char → Option (List Char)
  | '\n' => some []
  | '\\' => some ['\\']
  | '\'' => some ['\'']
  | '"' => some ['"']
  | 'a' => some ['\x07']
  | 'b' => some ['\x08']
  | 'f' => some ['\x0c']
  | 'n' => some ['\n']
  | 'r' => some ['\r']
  | 't' => some ['\t']
  | 'v' => some ['\x0b']
  | _ => none

/-- The character with a number of so many digits, and how much the escape takes with its letter;
or how much of it is at fault. -/
def numberEscape (count : Nat) (rest : List Char) : Except Nat (List Char × Nat) :=
  let digits := (rest.take count).takeWhile fun c => (Value.hexValue? c).isSome
  let n := Value.digitsNumber 16 digits
  if digits.length < count || 0x10ffff < n then .error (digits.length + 1)
  else .ok ([Value.unitChar n], count + 1)

def nameEscape (rest : List Char) : Except Nat (List Char × Nat) :=
  match rest with
  | '\x7b' :: more =>
    let name := more.takeWhile (· != '\x7d')
    if more.length ≤ name.length then .error (name.length + 2)
    else if name.isEmpty then .error 2
    else
      match charOfName? name with
      | some c => .ok ([c], name.length + 3)
      | none => .error (name.length + 3)
  | _ => .error 1

def escapeMeaning : List Char → Except Nat (List Char × Nat)
  | [] => .error 0
  | 'x' :: rest => numberEscape 2 rest
  | 'u' :: rest => numberEscape 4 rest
  | 'U' :: rest => numberEscape 8 rest
  | 'N' :: rest => nameEscape rest
  | c :: rest =>
    if isOctalDigit c then
      let digits := c :: (rest.take 2).takeWhile isOctalDigit
      .ok ([Char.ofNat (Value.digitsNumber 8 digits)], digits.length)
    else .ok ((letterEscape? c).getD ['\\', c], 1)

def rawEscapeMeaning : List Char → Except Nat (List Char × Nat)
  | [] => .ok (['\\'], 0)
  | 'u' :: rest => numberEscape 4 rest
  | 'U' :: rest => numberEscape 8 rest
  | c :: _ => .ok (['\\', c], 1)

def readEscapes (meaning : List Char → Except Nat (List Char × Nat)) (way : String) :
    Nat → List Char → Except Slip (List Char)
  | 0, _ | _, [] => .ok []
  | fuel + 1, c :: rest =>
    if c != '\\' then do return c :: (← readEscapes meaning way fuel rest)
    else
      match meaning rest with
      | .ok (text, taken) => do return text ++ (← readEscapes meaning way fuel (rest.drop taken))
      | .error extent => do
        let faulty := (c :: rest.take extent).map fun c => UInt8.ofNat c.toNat
        return (← substituteBytes way faulty) ++ (← readEscapes meaning way fuel (rest.drop extent))

end Understudy.Text
