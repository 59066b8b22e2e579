import Understudy.Number.Shortest
import Understudy.Template.Spec
import Understudy.Text.Cut

/-! Texts and numbers laid out by a specification.

A number is its sign, a lead such as `0x`, digits that may be grouped, and a tail: decimals, an
exponent, a percent sign. Zeros that fill a number are digits and take part in its groups.
-/

set_option autoImplicit false

namespace Understudy

namespace Binary64

def times (factor : Nat) : Binary64 → Binary64
  | .finite negative m e =>
    if m = 0 then zero negative
    else
      ofQuotient negative (m * factor * Nat.pow 2 e.toNat) (Nat.pow 2 (-e).toNat)
  | x => x

def ofInteger? (n : Int) : Option Binary64 :=
  if n = 0 then some (zero false)
  else
    match ofQuotient (n < 0) n.natAbs 1 with
    | .infinite _ => none
    | x => some x

end Binary64

namespace Template

/-- Widths from here on fit into no memory. -/
def widthLimit : Nat := Nat.pow 2 31

structure NumberText where
  negative : Bool
  lead : List Char
  digits : List Char
  tail : List Char
  deriving DecidableEq, Repr

/-- Digits in groups, all backwards; zeros are added until a width is reached. The fuel bounds the
number of groups. -/
def groupBackwards (size : Nat) (mark : Char) : Nat → Nat → List Char → List Char
  | 0, _, digits => digits
  | fuel + 1, least, digits =>
    let length := min size (max (max digits.length least) 1)
    let group := digits.take length ++ List.replicate (length - digits.length) '0'
    let rest := digits.drop length
    if rest.isEmpty && least - length = 0 then group
    else group ++ mark :: groupBackwards size mark fuel (least - length - 1) rest

def grouped (groups : Option (Nat × Char)) (least : Nat) (digits : List Char) : List Char :=
  if digits.isEmpty then []
  else
    match groups with
    | some (size, mark) =>
      (groupBackwards size mark (digits.length + least) least digits.reverse).reverse
    | none => Text.alignRight least '0' digits

def signText (spec : Spec) (negative : Bool) : List Char :=
  if negative then ['-']
  else
    match spec.sign with
    | some '+' => ['+']
    | some ' ' => [' ']
    | _ => []

def NumberText.layOut (n : NumberText) (spec : Spec) (groups : Option (Nat × Char)) : List Char :=
  let fill := spec.fillChar
  let align := spec.numberAlignment
  let width := spec.width.getD 0
  let sign := signText spec n.negative
  let others := sign.length + n.lead.length + n.tail.length
  let least := if fill == '0' && align == .inside then width - others else 0
  let body := grouped groups least n.digits ++ n.tail
  let free := width - (sign.length + n.lead.length + body.length)
  match align with
  | .left => sign ++ n.lead ++ body ++ List.replicate free fill
  | .right => List.replicate free fill ++ sign ++ n.lead ++ body
  | .center => Text.pad (free / 2) (free - free / 2) fill (sign ++ n.lead ++ body)
  | .inside => sign ++ n.lead ++ List.replicate free fill ++ body

def layOutText (spec : Spec) (s : List Char) : Except Slip (List Char) :=
  if spec.sign.isSome || spec.plainZero || spec.alternate || spec.grouping.isSome
      || spec.align == some .inside || spec.kind.any (· != 's') then .error .badValue
  else
    let s := s.take (spec.precision.getD s.length)
    let width := spec.width.getD 0
    if widthLimit ≤ width then .error .tooLarge
    else
      let free := width - s.length
      .ok (match spec.align with
        | some .right => Text.pad free 0 spec.fillChar s
        | some .center => Text.pad (free / 2) (free - free / 2) spec.fillChar s
        | _ => Text.pad 0 free spec.fillChar s)

def realText (kind : Option Char) (precision : Option Nat) (alternate : Bool) (m : Nat) (e : Int) :
    Digits × List Char :=
  let general (d : Digits) (limit : Int) (last : Int) (point : Bool) : List Char :=
    if d.point ≤ -4 || limit < d.point then d.scientific last.toNat alternate
    else d.positional (if point then max last (d.point + 1) else last) alternate
  match kind, precision with
  | none, none =>
    let d := Binary64.shortestDigits m e
    (d, general d 16 d.digits.length true)
  | none, some p =>
    let d := Binary64.leading p m e
    (d, general d (max p 1 - 1) (if alternate then max p 1 else d.digits.length) true)
  | some 'f', p =>
    let d := Binary64.roundedTo (p.getD 6) m e
    (d, d.positional (d.point + p.getD 6) alternate)
  | some 'e', p =>
    let d := Binary64.leading (p.getD 6 + 1) m e
    (d, d.scientific (p.getD 6 + 1) alternate)
  | some _, p =>
    let p := max (p.getD 6) 1
    let d := Binary64.leading p m e
    (d, general d p (if alternate then p else d.digits.length) false)

def realParts (spec : Spec) (kind : Option Char) (x : Binary64) : Bool × List Char :=
  match x with
  | .nan => (false, "nan".toList)
  | .infinite negative => (negative, "inf".toList)
  | .finite negative m e =>
    let (digits, text) := realText kind spec.precision spec.alternate m e
    (negative && !(spec.plainZero && digits.isZero), text)

def precisionLimit : Nat := Nat.pow 2 31 - 1

def layOutReal (spec : Spec) (x : Binary64) : Except Slip (List Char) := do
  let groups ← spec.groupSize (spec.kind.getD 'g')
  if precisionLimit < spec.precision.getD 0 then throw .badValue
  let upper := spec.kind.any fun c => "EFG".toList.contains c
  let (kind, x, unit) ←
    match spec.kind with
    | none => pure (none, x, [])
    | some '%' => pure (some 'f', x.times 100, ['%'])
    | some 'n' => pure (some 'g', x, [])
    | some c =>
      if "efgEFG".toList.contains c then pure (some c.toLower, x, []) else throw .badValue
  if widthLimit ≤ spec.width.getD 0 then throw .tooLarge
  let (negative, text) := realParts spec kind x
  let text := (if upper then text.map Char.toUpper else text) ++ unit
  let n : NumberText :=
    { negative, lead := [], digits := text.takeWhile Char.isDigit
      tail := text.dropWhile Char.isDigit }
  return n.layOut spec groups

def baseOf? : Char → Option (Nat × List Char)
  | 'd' | 'n' => some (10, [])
  | 'b' => some (2, ['0', 'b'])
  | 'o' => some (8, ['0', 'o'])
  | 'x' => some (16, ['0', 'x'])
  | 'X' => some (16, ['0', 'X'])
  | _ => none

def layOutChar (spec : Spec) (n : Int) : Except Slip (List Char) :=
  if spec.sign.isSome || spec.alternate then .error .badValue
  else if n < 0 || 0x10ffff < n then .error .overflow
  else .ok (NumberText.layOut ⟨false, [], [], [Char.ofNat n.toNat]⟩ spec none)

def layOutInteger (spec : Spec) (n : Int) : Except Slip (List Char) := do
  let kind := spec.kind.getD 'd'
  if "eEfFgG%".toList.contains kind then
    match Binary64.ofInteger? n with
    | some x => layOutReal spec x
    | none => do
      let _ ← spec.groupSize kind
      throw .overflow
  else
    let groups ← spec.groupSize kind
    if spec.precision.isSome || spec.plainZero then throw .badValue
    match baseOf? kind with
    | some (base, lead) =>
      if widthLimit ≤ spec.width.getD 0 then throw .tooLarge
      let digits := Nat.toDigits base n.natAbs
      let digits := if kind == 'X' then digits.map Char.toUpper else digits
      return NumberText.layOut ⟨n < 0, if spec.alternate then lead else [], digits, []⟩ spec groups
    | none => if kind == 'c' then layOutChar spec n else throw .badValue

end Template
end Understudy
