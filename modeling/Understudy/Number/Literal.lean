import Understudy.Number.Binary64
import Understudy.Text.Blank
import Understudy.Text.Numeral

/-! Numbers as people write them: blanks around, a sign, digits of any script, single
underscores between digits. -/

set_option autoImplicit false

namespace Understudy.Number

open Understudy.Text

/-- Digits of every script become ASCII digits and blanks become spaces. A character that can
stand in no number becomes a question mark. -/
def plainForm (c : Char) : Char :=
  if c.toNat < 127 then c
  else if isBlank c then ' '
  else
    match decimalValue? c with
    | some d => Char.ofNat ('0'.toNat + d)
    | none => '?'

def trimAscii (s : List Char) : List Char :=
  ((s.dropWhile isAsciiBlank).reverse.dropWhile isAsciiBlank).reverse

/-- Drop underscores, each of which must stand between two digits. -/
def dropUnderscores : Bool → List Char → Option (List Char)
  | _, [] => some []
  | afterDigit, '_' :: d :: rest =>
    if afterDigit && d.isDigit then (dropUnderscores true rest).map (d :: ·) else none
  | _, c :: rest => if c == '_' then none else (dropUnderscores c.isDigit rest).map (c :: ·)

def takeSign : List Char → Bool × List Char
  | '-' :: rest => (true, rest)
  | '+' :: rest => (false, rest)
  | rest => (false, rest)

def digitsFrom (start : Nat) (digits : List Char) : Nat :=
  digits.foldl (fun n c => 10 * n + (c.toNat - '0'.toNat)) start

/-- An integer is read from at most this many digits. -/
def digitLimit : Nat := 4300

def readInteger? (text : List Char) : Option Int :=
  let (negative, body) := takeSign (trimAscii (text.map plainForm))
  match dropUnderscores false body with
  | some digits =>
    if digits.isEmpty || !digits.all Char.isDigit || digitLimit < digits.length then none
    else
      let n : Int := digitsFrom 0 digits
      some (if negative then -n else n)
  | none => none

def digitValue? (c : Char) : Option Nat :=
  if c.isDigit then some (c.toNat - '0'.toNat)
  else if c.isAlpha then some (c.toLower.toNat - 'a'.toNat + 10)
  else none

def readDigits? (base : Nat) : Bool → List Char → Option (List Nat)
  | afterDigit, [] => if afterDigit then some [] else none
  | afterDigit, c :: rest =>
    if c == '_' then if afterDigit then readDigits? base false rest else none
    else do
      let value ← digitValue? c
      if value < base then (readDigits? base true rest).map (value :: ·) else none

def baseOfLetter? (c : Char) : Option Nat :=
  match c.toLower with
  | 'x' => some 16
  | 'o' => some 8
  | 'b' => some 2
  | _ => none

/-- Take the lead that tells the base off digits; an underscore may follow it. Base 0 stands for the
one that is told, and for ten without a lead. -/
def takeBase (base : Nat) (digits : List Char) : Nat × List Char :=
  let plain := (if base = 0 then 10 else base, digits)
  match digits with
  | '0' :: letter :: rest =>
    match baseOfLetter? letter with
    | some told =>
      if base = 0 || base = told then
        (told, match rest with
          | '_' :: rest => rest
          | rest => rest)
      else plain
    | none => plain
  | _ => plain

/-- An integer in a base from 2 to 36, or in the base that its lead tells if the base is 0: then
nothing but zero begins with a zero. -/
def readIntegerIn? (base : Nat) (plain : List Char) : Option Int := do
  let (negative, body) := takeSign (trimAscii plain)
  let (used, digits) := takeBase base body
  let values ← readDigits? used false digits
  let n := values.foldl (fun n value => used * n + value) 0
  if digitLimit < values.length && !([2, 4, 8, 16, 32].contains used) then none
  else if base = 0 && used = 10 && body.head? == some '0' && n ≠ 0 then none
  else some (if negative then -n else n)

def readPower? : List Char → Option Int
  | [] => some 0
  | mark :: rest =>
    let (negative, digits) := takeSign rest
    if (mark == 'e' || mark == 'E') && !digits.isEmpty && digits.all Char.isDigit then
      let n : Int := digitsFrom 0 digits
      some (if negative then -n else n)
    else none

def readDecimal? (negative : Bool) (body : List Char) : Option Binary64 :=
  let whole := body.takeWhile Char.isDigit
  let rest := body.dropWhile Char.isDigit
  let (fraction, rest) :=
    match rest with
    | '.' :: tail => (tail.takeWhile Char.isDigit, tail.dropWhile Char.isDigit)
    | _ => ([], rest)
  if whole.isEmpty && fraction.isEmpty then none
  else
    (readPower? rest).map fun power =>
      Binary64.ofDecimal negative (digitsFrom 0 (whole ++ fraction)) (power - fraction.length)

def readPlainReal? (s : List Char) : Option Binary64 :=
  match dropUnderscores false (trimAscii s) with
  | none => none
  | some plain =>
    let (negative, body) := takeSign plain
    let word := String.ofList (body.map Char.toLower)
    if word == "inf" || word == "infinity" then some (.infinite negative)
    else if word == "nan" then some .nan
    else readDecimal? negative body

def readReal? (text : List Char) : Option Binary64 := readPlainReal? (text.map plainForm)

end Understudy.Number
