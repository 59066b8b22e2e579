import Understudy.Number.Binary64

/-! The shortest decimal text of a double-precision number.

The digits are the fewest that read back to the number; of two decimals with that many digits
the nearer one is taken. A number is written positionally when its decimal point falls within
the first sixteen digits or at most three zeros before them, with an exponent otherwise.
-/

set_option autoImplicit false

namespace Understudy.Binary64

/-- A positive number between two neighbours, all three counted in quarters of 2 ^ exponent. -/
structure Rounding where
  low : Nat
  value : Nat
  high : Nat
  closed : Bool
  exponent : Int

/-- The reals that round to a positive number. The gap below a power of two is half as wide. -/
def rounding (significand : Nat) (exponent : Int) : Rounding :=
  { low := if significand == Nat.pow 2 52 && leastExponent < exponent then 4 * significand - 1
           else 4 * significand - 2
    value := 4 * significand
    high := 4 * significand + 2
    closed := significand % 2 == 0
    exponent := exponent - 2 }

def scales (exponent power : Int) : Nat × Nat :=
  (Nat.pow 2 exponent.toNat * Nat.pow 10 (-power).toNat,
    Nat.pow 10 power.toNat * Nat.pow 2 (-exponent).toNat)

def Rounding.holds (r : Rounding) (digits : Nat) (power : Int) : Bool :=
  let (unit, grid) := scales r.exponent power
  let point := digits * grid
  if r.closed then r.low * unit ≤ point && point ≤ r.high * unit
  else r.low * unit < point && point < r.high * unit

def Rounding.onGrid? (r : Rounding) (power : Int) : Option Nat :=
  let (unit, grid) := scales r.exponent power
  let below := r.value * unit / grid
  let above := below + 1
  match r.holds below power && below != 0, r.holds above power with
  | true, true =>
    let down := r.value * unit - below * grid
    let up := above * grid - r.value * unit
    if down < up then some below else if up < down then some above
    else if below % 2 == 0 then some below else some above
  | true, false => some below
  | false, true => some above
  | false, false => none

/-- Decimal places before the point of the number: the least p with the number below 10 ^ p. -/
def Rounding.magnitude (r : Rounding) : Int :=
  let estimate : Int := ((r.value.log2 : Int) + r.exponent) * 30103 / 100000 - 1
  let reaches (p : Int) : Bool :=
    let (unit, grid) := scales r.exponent p
    r.value * unit < grid
  ((List.range 5).map (fun (k : Nat) => estimate + (k : Int))).find? reaches |>.getD (estimate + 5)

/-- The digits and the power of ten of the shortest decimal. Seventeen digits always suffice. -/
def shortest (significand : Nat) (exponent : Int) : Nat × Int :=
  let r := rounding significand exponent
  let magnitude := r.magnitude
  let grids := (List.range 17).map fun (n : Nat) => magnitude - ((n : Int) + 1)
  match grids.findSome? fun power => (r.onGrid? power).map (·, power) with
  | some found => found
  | none => (significand * Nat.pow 2 exponent.toNat, 0)

def dropZeros (digits : List Char) : List Char × Nat :=
  let kept := (digits.reverse.dropWhile (· == '0')).reverse
  (kept, digits.length - kept.length)

def exponentText (e : Int) : String :=
  let digits := toString e.natAbs
  (if e < 0 then "e-" else "e+") ++ (if digits.length < 2 then "0" ++ digits else digits)

/-- Digits d₁d₂… of the value 0.d₁d₂… · 10 ^ point. -/
def positionalText (digits : List Char) (point : Int) : String :=
  if point ≤ 0 then "0." ++ String.ofList (List.replicate (-point).toNat '0' ++ digits)
  else
    let n := point.toNat
    let whole := digits.take n ++ List.replicate (n - digits.length) '0'
    let tail := digits.drop n
    String.ofList whole ++ "." ++ (if tail.isEmpty then "0" else String.ofList tail)

def scientificText (digits : List Char) (point : Int) : String :=
  let tail := digits.drop 1
  String.ofList (digits.take 1) ++ (if tail.isEmpty then "" else "." ++ String.ofList tail)
    ++ exponentText (point - 1)

def finiteText (significand : Nat) (exponent : Int) : String :=
  if significand == 0 then "0.0"
  else
    let (number, power) := shortest significand exponent
    let (digits, dropped) := dropZeros (toString number).toList
    let point : Int := digits.length + power + dropped
    if -4 < point && point ≤ 16 then positionalText digits point
    else scientificText digits point

def text : Binary64 → String
  | .finite negative m e => (if negative then "-" else "") ++ finiteText m e
  | .infinite negative => if negative then "-inf" else "inf"
  | .nan => "nan"

end Understudy.Binary64

namespace Understudy

/-! Double-precision numbers rounded to a number of decimals or digits.

The exact value is rounded once, a tie going to the even digit. What comes out are digits and the
place of their point; the styles of writing differ in how many digits they keep and where they
change to an exponent. -/

/-- Digits d₁d₂… of the value 0.d₁d₂… · 10 ^ point, without zeros at their end; zero is written
with one digit. -/
structure Digits where
  digits : List Char
  point : Int
  deriving DecidableEq, Repr

namespace Digits

def zero : Digits := ⟨['0'], 1⟩

def isZero (d : Digits) : Bool := d.digits.all (· == '0')

def ofDecimal (number : Nat) (power : Int) : Digits :=
  let (digits, dropped) := Binary64.dropZeros (toString number).toList
  ⟨digits, digits.length + power + dropped⟩

/-- Write digits with their point, followed by zeros up to a last place. A point at the end
stays only if it is wanted. -/
def positional (d : Digits) (last : Int) (keepPoint : Bool) : List Char :=
  let zeros (n : Int) : List Char := List.replicate n.toNat '0'
  let behind := zeros (last - max d.point d.digits.length)
  let text :=
    if d.point ≤ 0 then
      ['0', '.'] ++ zeros (-d.point) ++ d.digits ++ zeros (last - d.digits.length)
    else
      let whole := d.point.toNat
      d.digits.take whole ++ zeros (d.point - d.digits.length) ++ ['.'] ++ d.digits.drop whole
        ++ behind
  if text.getLast? == some '.' && !keepPoint then text.dropLast else text

def scientific (d : Digits) (least : Nat) (keepPoint : Bool) : List Char :=
  positional ⟨d.digits, 1⟩ (max least 1) keepPoint
    ++ (Binary64.exponentText (d.point - 1)).toList

end Digits

namespace Binary64

def scaled (significand : Nat) (exponent places : Int) : Nat :=
  let (unit, grid) := scales exponent (-places)
  roundQuotient (significand * unit) grid

def roundedTo (places : Nat) (significand : Nat) (exponent : Int) : Digits :=
  if significand = 0 then .zero
  else
    let number := scaled significand exponent places
    if number = 0 then ⟨[], -places⟩ else .ofDecimal number (-places)

def leading (count : Nat) (significand : Nat) (exponent : Int) : Digits :=
  if significand = 0 then .zero
  else
    let power := (rounding significand exponent).magnitude - max count 1
    .ofDecimal (scaled significand exponent (-power)) power

def shortestDigits (significand : Nat) (exponent : Int) : Digits :=
  if significand = 0 then .zero
  else
    let (number, power) := shortest significand exponent
    .ofDecimal number power

end Binary64

end Understudy
