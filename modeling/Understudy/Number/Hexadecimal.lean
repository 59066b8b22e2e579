import Understudy.Number.Literal
import Understudy.Slip
import Understudy.Value.Reader
import Understudy.Value.Shown

/-! Double-precision numbers in hexadecimal, and as exact quotients. -/

set_option autoImplicit false

namespace Understudy.Binary64

def quotient? : Binary64 → Option (Int × Nat)
  | .finite negative m e =>
    let num := m * Nat.pow 2 e.toNat
    let den := Nat.pow 2 (-e).toNat
    let common := Nat.gcd num den
    let number : Int := num / common
    some (if negative then -number else number, den / common)
  | _ => none

/-- A number in hexadecimal: one digit before the point, thirteen behind it, and a power of two. -/
def hexText : Binary64 → String
  | .finite negative m e =>
    let sign := if negative then "-" else ""
    if m = 0 then sign ++ "0x0.0p+0"
    else
      let unit := Nat.pow 2 52
      let power := e + 52
      sign ++ "0x" ++ toString (m / unit) ++ "." ++ String.ofList (Text.hexDigits 13 (m % unit))
        ++ (if power < 0 then "p-" else "p+") ++ toString power.natAbs
  | x => x.text

/-- The number ± digits · 2 ^ power, rounded; it may be too great. Powers far outside the range
are settled without computing them. -/
def ofBinary (negative : Bool) (digits : Nat) (power : Int) : Except Slip Binary64 :=
  let top := power + digits.log2
  if digits = 0 || top < -1100 then .ok (zero negative)
  else if 1100 < top then .error .overflow
  else
    match ofQuotient negative (digits * Nat.pow 2 power.toNat) (Nat.pow 2 (-power).toNat) with
    | .infinite _ => .error .overflow
    | x => .ok x

/-- A power of two behind its mark, and what follows it. Nothing at all is power 0. -/
def takeBinaryPower : List Char → Option (Int × List Char)
  | c :: rest =>
    if c == 'p' || c == 'P' then
      let (negative, rest) := Number.takeSign rest
      let digits := rest.takeWhile Char.isDigit
      if digits.isEmpty then none
      else
        let n : Int := Number.digitsFrom 0 digits
        some (if negative then -n else n, rest.dropWhile Char.isDigit)
    else some (0, c :: rest)
  | [] => some (0, [])

def isHexDigit (c : Char) : Bool := (Value.hexValue? c).isSome

def takeHexDigits (s : List Char) : List Char × Nat × List Char :=
  let whole := s.takeWhile isHexDigit
  match s.dropWhile isHexDigit with
  | '.' :: rest =>
    let fraction := rest.takeWhile isHexDigit
    (whole ++ fraction, fraction.length, rest.dropWhile isHexDigit)
  | rest => (whole, 0, rest)

def dropHexLead : List Char → List Char
  | '0' :: 'x' :: rest | '0' :: 'X' :: rest => rest
  | rest => rest

def takeWord? (s : List Char) : Option (Binary64 × List Char) :=
  let (negative, body) := Number.takeSign s
  let leads (word : String) : Bool := word.toList.isPrefixOf (body.map Char.toLower)
  if leads "infinity" then some (.infinite negative, body.drop 8)
  else if leads "inf" then some (.infinite negative, body.drop 3)
  else if leads "nan" then some (.nan, body.drop 3)
  else none

def takeHex (s : List Char) : Except Slip (Binary64 × List Char) :=
  match takeWord? s with
  | some found => .ok found
  | none =>
    let (negative, body) := Number.takeSign s
    let (digits, behind, rest) := takeHexDigits (dropHexLead body)
    if digits.isEmpty then .error .badValue
    else
      match takeBinaryPower rest with
      | none => .error .badValue
      | some (power, rest) =>
        let number := digits.foldl (fun n c => 16 * n + (Value.hexValue? c).getD 0) 0
        (ofBinary negative number (power - 4 * behind)).map (·, rest)

def ofHex (s : List Char) : Except Slip Binary64 := do
  let (x, rest) ← takeHex (s.dropWhile Text.isAsciiBlank)
  if rest.all Text.isAsciiBlank then return x else throw .badValue

end Understudy.Binary64
