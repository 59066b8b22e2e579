import Understudy.Slip
import Understudy.Text.Numeral

/-! How a field of a template is laid out.

A specification is a row of optional parts: a fill character and an alignment, a sign, marks, a
width, a mark between groups of digits, a precision, and the kind of presentation.
-/

set_option autoImplicit false

namespace Understudy.Template

inductive Alignment where
  | left
  | right
  | center
  /-- Between the sign and the digits of a number. -/
  | inside
  deriving DecidableEq, Repr

def Alignment.ofChar? : Char → Option Alignment
  | '<' => some .left
  | '>' => some .right
  | '^' => some .center
  | '=' => some .inside
  | _ => none

structure Spec where
  fill : Option Char
  align : Option Alignment
  sign : Option Char
  plainZero : Bool
  alternate : Bool
  zeros : Bool
  width : Option Nat
  grouping : Option Char
  precision : Option Nat
  kind : Option Char
  deriving DecidableEq, Repr

def greatestCount : Nat := Nat.pow 2 63 - 1

def numberOf (digits : List Char) : Except Slip (Option Nat) :=
  if digits.isEmpty then .ok none
  else
    let n := digits.foldl (fun n c => 10 * n + (Text.decimalValue? c).getD 0) 0
    if greatestCount < n then .error .badValue else .ok (some n)

def takeNumber (s : List Char) : Except Slip (Option Nat × List Char) := do
  return (← numberOf (s.takeWhile Text.isDecimal), s.dropWhile Text.isDecimal)

def takeMark (mark : Char) : List Char → Bool × List Char
  | c :: rest => if c == mark then (true, rest) else (false, c :: rest)
  | [] => (false, [])

def takeOneOf (marks : List Char) : List Char → Option Char × List Char
  | c :: rest => if marks.contains c then (some c, rest) else (none, c :: rest)
  | [] => (none, [])

/-- Take a fill character and an alignment off; a fill stands only before an alignment. -/
def takeAlignment (s : List Char) : Option Char × Option Alignment × List Char :=
  let alone : Option Char × Option Alignment × List Char :=
    match s with
    | c :: rest =>
      match Alignment.ofChar? c with
      | some align => (none, some align, rest)
      | none => (none, none, s)
    | [] => (none, none, [])
  match s with
  | fill :: c :: rest =>
    match Alignment.ofChar? c with
    | some align => (some fill, some align, rest)
    | none => alone
  | _ => alone

def takePrecision (s : List Char) : Except Slip (Option Nat × List Char) := do
  match takeMark '.' s with
  | (false, rest) => return (none, rest)
  | (true, rest) =>
    match ← takeNumber rest with
    | (none, _) => .error .badValue
    | found => return found

def Spec.read (s : List Char) : Except Slip Spec := do
  let (fill, align, s) := takeAlignment s
  let (sign, s) := takeOneOf ['+', '-', ' '] s
  let (plainZero, s) := takeMark 'z' s
  let (alternate, s) := takeMark '#' s
  let (zeros, s) := if fill.isNone then takeMark '0' s else (false, s)
  let (width, s) ← takeNumber s
  let (grouping, s) := takeOneOf [',', '_'] s
  let (precision, s) ← takePrecision s
  let spec (kind : Option Char) : Spec :=
    { fill, align, sign, plainZero, alternate, zeros, width, grouping, precision, kind }
  match s with
  | [] => return spec none
  | [kind] => return spec (some kind)
  | _ => .error .badValue

namespace Spec

def fillChar (spec : Spec) : Char := spec.fill.getD (if spec.zeros then '0' else ' ')

/-- The alignment of a number; those filled with zeros are filled behind their sign. -/
def numberAlignment (spec : Spec) : Alignment :=
  spec.align.getD (if spec.zeros then .inside else .right)

def groupSize (spec : Spec) (kind : Char) : Except Slip (Option (Nat × Char)) :=
  match spec.grouping with
  | none => .ok none
  | some mark =>
    if "defgEFG%".toList.contains kind then .ok (some (3, mark))
    else if mark == '_' && "boxX".toList.contains kind then .ok (some (4, mark))
    else .error .badValue

end Spec
end Understudy.Template
