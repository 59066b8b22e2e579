import Understudy.Template.Layout

/-! Templates with percent signs.

A conversion is a percent sign, a name in brackets, flags, a width, a precision, a mark of length
that means nothing, and the letter of its kind. Width and precision may be left to the values that
fill the template.
-/

set_option autoImplicit false

namespace Understudy.Template

inductive BracketedName where
  | closed (name : List Char)
  | unclosed
  deriving DecidableEq, Repr

inductive Measure where
  | count (n : Nat)
  | excessive
  /-- One that is taken from the values. -/
  | asked
  deriving DecidableEq, Repr

structure Flags where
  left : Bool
  sign : Bool
  blank : Bool
  alternate : Bool
  zeros : Bool
  deriving DecidableEq, Repr

structure Conversion where
  name : Option BracketedName
  flags : Flags
  width : Option Measure
  precision : Option Measure
  letter : Option Char
  deriving DecidableEq, Repr

inductive PercentPiece where
  | literal (text : List Char)
  | conversion (c : Conversion)
  deriving DecidableEq, Repr

/-- The text up to the bracket that closes the outermost of so many open ones, and the rest. -/
def takeBracketed : Nat → List Char → Option (List Char × List Char)
  | _, [] => none
  | open_, c :: rest =>
    if c == ')' && open_ ≤ 1 then some ([], rest)
    else
      let open_ := if c == ')' then open_ - 1 else if c == '(' then open_ + 1 else open_
      (takeBracketed open_ rest).map fun (name, rest) => (c :: name, rest)

def takeBracketedName : List Char → Option BracketedName × List Char
  | '(' :: rest =>
    match takeBracketed 1 rest with
    | some (name, rest) => (some (.closed name), rest)
    | none => (some .unclosed, [])
  | s => (none, s)

def isFlag (c : Char) : Bool := "-+ #0".toList.contains c

def flagsOf (marks : List Char) : Flags where
  left := marks.contains '-'
  sign := marks.contains '+'
  blank := marks.contains ' '
  alternate := marks.contains '#'
  zeros := marks.contains '0'

def takeMeasure (limit : Nat) : List Char → Option Measure × List Char
  | '*' :: rest => (some .asked, rest)
  | s =>
    let digits := s.takeWhile Char.isDigit
    let n := digits.foldl (fun n c => 10 * n + (c.toNat - '0'.toNat)) 0
    if digits.isEmpty then (none, s)
    else (some (if limit < n then .excessive else .count n), s.dropWhile Char.isDigit)

/-- What stands behind a point; without digits it is zero. -/
def takePointMeasure (limit : Nat) : List Char → Option Measure × List Char
  | '.' :: rest =>
    let (measure, rest) := takeMeasure limit rest
    (some (measure.getD (.count 0)), rest)
  | s => (none, s)

def takeConversion (s : List Char) : Conversion × List Char :=
  let (name, s) := takeBracketedName s
  let flags := flagsOf (s.takeWhile isFlag)
  let (width, s) := takeMeasure greatestCount (s.dropWhile isFlag)
  let (precision, s) := takePointMeasure precisionLimit s
  let (_, s) := takeOneOf ['h', 'l', 'L'] s
  (⟨name, flags, width, precision, s.head?⟩, s.drop 1)

def percentPiecesWith : Nat → List Char → List PercentPiece
  | 0, _ => []
  | _, [] => []
  | fuel + 1, '%' :: rest =>
    let (c, rest) := takeConversion rest
    .conversion c :: percentPiecesWith fuel rest
  | fuel + 1, s =>
    .literal (s.takeWhile (· != '%')) :: percentPiecesWith fuel (s.dropWhile (· != '%'))

def percentPieces (s : List Char) : List PercentPiece := percentPiecesWith (s.length + 1) s

structure Style where
  flags : Flags
  width : Nat
  precision : Option Nat
  deriving DecidableEq, Repr

namespace Style

def text (style : Style) (s : List Char) : List Char :=
  let s := s.take (style.precision.getD s.length)
  if style.flags.left then Text.alignLeft style.width ' ' s else Text.alignRight style.width ' ' s

def number (style : Style) (n : NumberText) : List Char :=
  let flags := style.flags
  let sign : List Char :=
    if n.negative then ['-'] else if flags.sign then ['+'] else if flags.blank then [' '] else []
  let body := n.digits ++ n.tail
  let free := style.width - (sign.length + n.lead.length + body.length)
  if flags.left then sign ++ n.lead ++ body ++ List.replicate free ' '
  else if flags.zeros then sign ++ n.lead ++ List.replicate free '0' ++ body
  else List.replicate free ' ' ++ sign ++ n.lead ++ body

/-- Lay an integer out in a base; the precision is the least number of digits. -/
def integer (style : Style) (letter : Char) (n : Int) : List Char :=
  let (base, lead) := (baseOf? letter).getD (10, [])
  let digits := Nat.toDigits base n.natAbs
  let digits := if letter == 'X' then digits.map Char.toUpper else digits
  style.number
    { negative := n < 0
      lead := if style.flags.alternate then lead else []
      digits := Text.alignRight (style.precision.getD 0) '0' digits
      tail := [] }

def real (style : Style) (letter : Char) (x : Binary64) : List Char :=
  let (negative, digits) :=
    match x with
    | .nan => (false, "nan".toList)
    | .infinite negative => (negative, "inf".toList)
    | .finite negative m e =>
      (negative, (realText (some letter.toLower) style.precision style.flags.alternate m e).2)
  let digits := if letter.isUpper then digits.map Char.toUpper else digits
  style.number { negative, lead := [], digits, tail := [] }

end Style
end Understudy.Template
