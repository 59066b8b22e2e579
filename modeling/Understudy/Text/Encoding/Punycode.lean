import Understudy.Text.Encoding.Way
import Understudy.Text.Label
import Understudy.Value.Reader

/-! Punycode: any text in letters, digits and hyphens.

The ASCII characters come first. Behind the last hyphen the others follow in the order of their
numbers, each as the distance from the one before, in digits whose weights adapt to the distances
met so far.
-/

set_option autoImplicit false

namespace Understudy.Text.Punycode

def digitChar (d : Nat) : Char := if d < 26 then Char.ofNat (97 + d) else Char.ofNat (22 + d)

def digitValue? (c : Char) : Option Nat :=
  if c.isAlpha then some (c.toLower.toNat - 97)
  else if c.isDigit then some (c.toNat - 22)
  else none

def threshold (place bias : Nat) : Nat := min 26 (max 1 (36 * (place + 1) - bias))

theorem threshold_pos (place bias : Nat) : 1 ≤ threshold place bias := by
  simp only [threshold]
  omega

def settle (distance divisions : Nat) : Nat :=
  if 455 < distance then settle (distance / 35) (divisions + 36)
  else divisions + 36 * distance / (distance + 38)
termination_by distance
decreasing_by omega

def adapt (distance : Nat) (first : Bool) (length : Nat) : Nat :=
  let scaled := distance / (if first then 700 else 2)
  settle (scaled + scaled / length) 0

def distanceDigits (bias : Nat) (place distance : Nat) : List Char :=
  let t := threshold place bias
  if distance < t then [digitChar distance]
  else
    digitChar (t + (distance - t) % (36 - t))
      :: distanceDigits bias (place + 1) ((distance - t) / (36 - t))
termination_by distance
decreasing_by
  have positive := threshold_pos place bias
  exact Nat.lt_of_le_of_lt (Nat.div_le_self _ _) (by omega)

/-- Where encoding stands: the distance from the character before, the bias, how many characters
are written, and the digits so far. -/
structure Progress where
  distance : Nat
  bias : Nat
  written : Nat
  digits : List Char

def Progress.pass (basic number : Nat) (p : Progress) (c : Char) : Progress :=
  if c.toNat < number then { p with distance := p.distance + 1 }
  else if c.toNat = number then
    { distance := 0
      bias := adapt p.distance (p.written == basic) (p.written + 1)
      written := p.written + 1
      digits := p.digits ++ distanceDigits p.bias 0 p.distance }
  else p

/-- Write the characters with each of the numbers, the least being `next` or more. -/
def encodeNumbers (s : List Char) (basic : Nat) : Nat → List Nat → Progress → List Char
  | _, [], p => p.digits
  | next, number :: rest, p =>
    let p := { p with distance := p.distance + (number - next) * (p.written + 1) }
    let p := s.foldl (Progress.pass basic number) p
    encodeNumbers s basic (number + 1) rest { p with distance := p.distance + 1 }

def encode (s : List Char) : List Char :=
  let basic := s.filter (·.toNat < 0x80)
  let others := ((s.filter (0x80 ≤ ·.toNat)).map Char.toNat).eraseDups.mergeSort
  basic ++ (if basic.isEmpty then [] else ['-'])
    ++ encodeNumbers s basic.length 0x80 others ⟨0, 72, basic.length, []⟩

def readDistance (bias : Nat) : Nat → Nat → Nat → List Char → Option (Nat × List Char)
  | _, _, _, [] => none
  | place, weight, sum, c :: rest =>
    (digitValue? c).bind fun digit =>
      let t := threshold place bias
      let sum := sum + digit * weight
      if digit < t then some (sum, rest)
      else readDistance bias (place + 1) (weight * (36 - t)) sum rest

/-- Insert characters by their distances into a text; the fuel bounds their number. Unless faults
are refused, the text ends where one is met. -/
def insertAt (strict : Bool) :
    Nat → (number place bias : Nat) → (first : Bool) → List Char → List Char →
      Except Slip (List Char)
  | 0, _, _, _, _, text, _ | _, _, _, _, _, text, [] => .ok text
  | fuel + 1, number, place, bias, first, text, digits =>
    match readDistance bias 0 1 0 digits with
    | none => if strict then .error .illFormed else .ok text
    | some (distance, rest) =>
      let length := text.length + 1
      let number := number + (place + distance) / length
      let place := (place + distance) % length
      if 0x10ffff < number && strict then .error .illFormed
      else
        let number := if 0x10ffff < number then '?'.toNat else number
        let text := text.take place ++ Value.unitChar number :: text.drop place
        insertAt strict fuel number (place + 1) (adapt distance first length) false text rest

def readBasic (way : String) (data : List UInt8) : Except Slip (List Char) := do
  let chunks ← data.mapM fun b =>
    if b.toNat < 0x80 then Except.ok [Char.ofNat b.toNat] else substituteBytes way [b]
  return chunks.flatten

def decode (way : String) (data : List UInt8) : Except Slip (List Char) := do
  if !(["strict", "replace", "ignore"].contains way) then throw .illFormed
  let behind := data.reverse.takeWhile (· != 45)
  let basic ← readBasic way (data.take (data.length - behind.length - 1))
  let digits ← readBasic "strict" behind.reverse
  insertAt (way == "strict") digits.length 0x80 0 72 true basic digits

end Understudy.Text.Punycode

namespace Understudy.Text.Domain

/-! Domain names in ASCII.

The labels of a name stand between dots of several scripts. A label that is not ASCII is prepared
for comparison and then written in Punycode behind a mark. Labels have from one to 63 characters;
behind the last dot there may be none. -/

def isDot (c : Char) : Bool := ['.', '\u3002', '\uff0e', '\uff61'].contains c

def isAscii (s : List Char) : Bool := s.all (·.toNat < 0x80)

def mark : List Char := "xn--".toList

def splitBy (cut : Char → Bool) : List Char → List (List Char)
  | [] => [[]]
  | c :: rest =>
    match cut c, splitBy cut rest with
    | true, parts => [] :: parts
    | false, part :: parts => (c :: part) :: parts
    | false, [] => [[c]]

def sized (label : List Char) : Except Slip (List Char) :=
  if label.isEmpty || 64 ≤ label.length then .error .illFormed else .ok label

def encodeLabel (label : List Char) : Except Slip (List Char) := do
  if isAscii label then sized label
  else
    let label ← Label.prepare label
    if isAscii label then sized label
    else if mark.isPrefixOf label then .error .illFormed
    else sized (mark ++ Punycode.encode label)

/-- Labels between dots; that the last of them is missing is said by a dot at the end. -/
def joinLabels (labels : List (List Char)) (ends : Bool) : List Char :=
  ['.'].intercalate labels ++ (if ends then ['.'] else [])

def encode (way : String) (s : List Char) : Except Slip (List Char) := do
  if way ≠ "strict" then throw .illFormed
  if isAscii s then
    let labels := splitBy (· == '.') s
    if s.isEmpty then return []
    if labels.dropLast.any (·.isEmpty) || labels.any (64 ≤ ·.length) then throw .illFormed
    return s
  let labels := splitBy isDot s
  let ends := labels.getLast?.any (·.isEmpty)
  return joinLabels (← (if ends then labels.dropLast else labels).mapM encodeLabel) ends

/-- The label that one in ASCII stands for; encoded again, it has to be the same whatever its
case. -/
def decodeLabel (label : List Char) : Except Slip (List Char) := do
  if !isAscii label then throw .undecodable
  if !mark.isPrefixOf label then return label
  let text ← Punycode.decode "strict" ((label.drop 4).map fun c => UInt8.ofNat c.toNat)
  if (← encodeLabel text) = label.map Char.toLower then return text else throw .illFormed

def decode (way : String) (s : List Char) : Except Slip (List Char) := do
  if way ≠ "strict" then throw .illFormed
  let marked := (cutFirst mark s).isSome
  if !marked && isAscii s then return s
  let labels := splitBy (· == '.') s
  let ends := labels.getLast?.any (·.isEmpty)
  return joinLabels (← (if ends then labels.dropLast else labels).mapM decodeLabel) ends

end Understudy.Text.Domain
