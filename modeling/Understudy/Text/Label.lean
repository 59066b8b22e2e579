import Understudy.Slip
import Understudy.Text.Cut
import Understudy.Text.Blank
import Understudy.Text.Label.Table
import Understudy.Value.Reader

/-! Labels of domain names in the form in which they are compared.

Every character is taken apart into what it says whatever its case or width, marks are brought
into order, and what belongs together is put together again. Some characters are refused, and
directions of writing do not mix. One of the encodings of texts is that of such labels.
-/

set_option autoImplicit false

namespace Understudy.Text.Label

def entries (table : List String) : List (List Char × List Char) :=
  (table.flatMap fun line => runs (· != ' ') line.toList).filterMap (cutFirst ['>'])

structure PartRun where
  first : Nat
  count : Nat
  step : Nat
  target : Nat

def readPartRun (left right : List Char) : PartRun :=
  let target := Value.digitsNumber 16 right
  match cutFirst ['*'] left, cutFirst ['/'] left with
  | some (first, count), _ => ⟨Value.digitsNumber 16 first, Value.digitsNumber 16 count, 1, target⟩
  | none, some (first, count) =>
    ⟨Value.digitsNumber 16 first, Value.digitsNumber 16 count, 2, target⟩
  | none, none => ⟨Value.digitsNumber 16 left, 1, 1, target⟩

def partRunTable : List PartRun := (entries partRuns).map fun (left, right) => readPartRun left right

def partListTable : List (Nat × List Char) :=
  (entries partLists).map fun (left, right) =>
    (Value.digitsNumber 16 left,
      (runs (· != '+') right).map fun digits => Char.ofNat (Value.digitsNumber 16 digits))

def pairTable : List (Char × Char × Char) :=
  (entries pairs).filterMap fun (left, right) =>
    (cutFirst ['+'] left).map fun (a, b) =>
      let char (digits : List Char) : Char := Char.ofNat (Value.digitsNumber 16 digits)
      (char a, char b, char right)

def syllableParts (n : Nat) : List Char :=
  let last := n % 28
  [Char.ofNat (0x1100 + n / 588), Char.ofNat (0x1161 + n % 588 / 28)]
    ++ (if last = 0 then [] else [Char.ofNat (0x11a7 + last)])

def partsOf (c : Char) : List Char :=
  let n := c.toNat
  if 0xac00 ≤ n && n < 0xac00 + 11172 then syllableParts (n - 0xac00)
  else
    match partListTable.find? (·.1 == n) with
    | some (_, parts) => parts
    | none =>
      let isIn (r : PartRun) : Bool :=
        r.first ≤ n && n < r.first + r.count * r.step && (n - r.first) % r.step == 0
      match partRunTable.find? isIn with
      | some r => [Char.ofNat (r.target + (n - r.first))]
      | none => [c]

def markClass (c : Char) : Nat :=
  ((markClasses.find? fun (first, last, _) => first ≤ c.toNat && c.toNat ≤ last).map (·.2.2)).getD 0

def placeMark (c : Char) : List Char → List Char
  | [] => [c]
  | d :: before =>
    if markClass c < markClass d then d :: placeMark c before else c :: d :: before

def inOrder (s : List Char) : List Char :=
  (s.foldl (fun before c => if markClass c = 0 then c :: before else placeMark c before) []).reverse

def joined? (a b : Char) : Option Char :=
  let m := a.toNat
  let n := b.toNat
  if 0x1100 ≤ m && m < 0x1113 && 0x1161 ≤ n && n < 0x1176 then
    some (Char.ofNat (0xac00 + (m - 0x1100) * 588 + (n - 0x1161) * 28))
  else if 0xac00 ≤ m && m < 0xac00 + 11172 && (m - 0xac00) % 28 = 0
      && 0x11a8 ≤ n && n < 0x11c3 then
    some (Char.ofNat (m + (n - 0x11a7)))
  else (pairTable.find? fun (x, y, _) => x == a && y == b).map (·.2.2)

/-- A text that is being put together: what is finished, backwards, the last character that is no
mark, and the marks behind it, backwards. -/
structure Joining where
  finished : List Char
  base : Option Char
  marks : List Char

def Joining.text (j : Joining) : List Char := j.marks ++ j.base.toList ++ j.finished

/-- Add a character. It joins the last one that is no mark, unless a mark of its class or a higher
one stands between them. -/
def Joining.add (j : Joining) (c : Char) : Joining :=
  let reaches := j.marks.head?.all (markClass · < markClass c)
  match j.base.bind fun base => if reaches then joined? base c else none with
  | some base => { j with base := some base }
  | none =>
    if markClass c = 0 then ⟨j.text, some c, []⟩ else { j with marks := c :: j.marks }

def putTogether (s : List Char) : List Char :=
  (s.foldl Joining.add ⟨[], none, []⟩).text.reverse

/-- Whether directions of writing do not mix: a label with a character from right to left begins
and ends with one and has none from left to right. -/
def keepsDirection (s : List Char) : Bool :=
  let turned (c : Char) : Bool := inRanges rightToLeftRanges c.toNat
  !s.any turned
    || !s.any (fun c => inRanges leftToRightRanges c.toNat)
      && s.head?.all turned && s.getLast?.all turned

def prepare (s : List Char) : Except Slip (List Char) :=
  let label := putTogether (inOrder (s.flatMap partsOf))
  if label.any (fun c => inRanges refusedRanges c.toNat) || !keepsDirection label then
    .error .illFormed
  else .ok label

end Understudy.Text.Label
