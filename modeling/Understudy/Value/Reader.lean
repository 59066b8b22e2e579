import Understudy.Number.Literal
import Understudy.Value.Basic

/-! Reading JSON documents.

Beside the standard's values the words `NaN`, `Infinity` and `-Infinity` are numbers. Of two
entries under one key the later value counts. A fault carries the place at which it was found.
-/

set_option autoImplicit false

namespace Understudy.Value

open Understudy.Number

inductive Complaint where
  | byteOrderMark
  | value
  | extra
  | name
  | colon
  | comma
  | control
  | unterminated
  | escape
  | unicodeEscape
  | integerTooLong (digits : Nat)
  deriving DecidableEq, Repr

def Complaint.message : Complaint → String
  | .byteOrderMark => "Unexpected UTF-8 BOM (decode using utf-8-sig)"
  | .value => "Expecting value"
  | .extra => "Extra data"
  | .name => "Expecting property name enclosed in double quotes"
  | .colon => "Expecting ':' delimiter"
  | .comma => "Expecting ',' delimiter"
  | .control => "Invalid control character at"
  | .unterminated => "Unterminated string starting at"
  | .escape => "Invalid \\escape"
  | .unicodeEscape => "Invalid \\uXXXX escape"
  | .integerTooLong digits =>
    "Exceeds the limit (" ++ toString digitLimit
      ++ " digits) for integer string conversion: value has " ++ toString digits
      ++ " digits; use sys.set_int_max_str_digits() to increase the limit"

structure Stop where
  complaint : Complaint
  left : Nat
  deriving DecidableEq, Repr

def stop {α : Type} (complaint : Complaint) (rest : List Char) : Except Stop α :=
  .error ⟨complaint, rest.length⟩

def skipBlanks (s : List Char) : List Char :=
  s.dropWhile fun c => c == ' ' || c == '\t' || c == '\n' || c == '\r'

def hexValue? (c : Char) : Option Nat :=
  if c.isDigit then some (c.toNat - '0'.toNat)
  else if 'a' ≤ c && c ≤ 'f' then some (c.toNat - 'a'.toNat + 10)
  else if 'A' ≤ c && c ≤ 'F' then some (c.toNat - 'A'.toNat + 10)
  else none

def digitsNumber (base : Nat) (digits : List Char) : Nat :=
  digits.foldl (fun n c => base * n + (hexValue? c).getD 0) 0

def hex4? (a b c d : Char) : Option Nat := do
  let a ← hexValue? a
  let b ← hexValue? b
  let c ← hexValue? c
  let d ← hexValue? d
  return ((a * 16 + b) * 16 + c) * 16 + d

def isHighHalf (n : Nat) : Bool := 0xD800 ≤ n && n < 0xDC00

def isLowHalf (n : Nat) : Bool := 0xDC00 ≤ n && n < 0xE000

/-- A code unit or code point as a character. Half of a pair that stands alone is no character; it
becomes one of the last plane of private use, and so texts that differ in such halves stay apart. -/
def unitChar (n : Nat) : Char :=
  if isHighHalf n || isLowHalf n then Char.ofNat (0x10F000 + (n - 0xD800)) else Char.ofNat n

def joinHalves (high low : Nat) : Char :=
  Char.ofNat (0x10000 + (high - 0xD800) * 0x400 + (low - 0xDC00))

def escapes : List (Char × Char) :=
  [('"', '"'), ('\\', '\\'), ('/', '/'), ('b', '\x08'), ('f', '\x0c'), ('n', '\n'),
   ('r', '\r'), ('t', '\t')]

/-- Code units as characters; two halves that follow each other make one character. -/
def joinUnits : List Nat → List Char
  | high :: low :: rest =>
    if isHighHalf high && isLowHalf low then joinHalves high low :: joinUnits rest
    else unitChar high :: joinUnits (low :: rest)
  | [n] => [unitChar n]
  | [] => []

/-- The rest of a string after its opening quote. `opening` is the text from that quote on, and
`seen` holds the code units read so far in reverse. -/
def readString (opening : List Char) : List Nat → List Char → Except Stop (List Char × List Char)
  | _, [] => .error ⟨.unterminated, opening.length⟩
  | seen, '"' :: rest => .ok (joinUnits seen.reverse, rest)
  | _, '\\' :: [] => .error ⟨.unterminated, opening.length⟩
  | seen, '\\' :: 'u' :: a :: b :: c :: d :: rest =>
    match rest.isEmpty, hex4? a b c d with
    | false, some unit => readString opening (unit :: seen) rest
    | _, _ => .error ⟨.unicodeEscape, rest.length + 5⟩
  | seen, '\\' :: c :: rest =>
    if c == 'u' then .error ⟨.unicodeEscape, rest.length + 1⟩
    else
      match escapes.lookup c with
      | some e => readString opening (e.toNat :: seen) rest
      | none => .error ⟨.escape, rest.length + 2⟩
  | seen, c :: rest =>
    if c.toNat < 0x20 then .error ⟨.control, rest.length + 1⟩
    else readString opening (c.toNat :: seen) rest

/-- A fraction: a point followed by at least one digit. -/
def takeFraction : List Char → List Char × List Char
  | '.' :: d :: rest =>
    if d.isDigit then (d :: rest.takeWhile Char.isDigit, rest.dropWhile Char.isDigit)
    else ([], '.' :: d :: rest)
  | s => ([], s)

def takePower (s : List Char) : Option Int × List Char :=
  match s with
  | mark :: rest =>
    if mark == 'e' || mark == 'E' then
      let (negative, body) := takeSign rest
      let digits := body.takeWhile Char.isDigit
      if digits.isEmpty then (none, s)
      else
        let n : Int := digitsFrom 0 digits
        (some (if negative then -n else n), body.dropWhile Char.isDigit)
    else (none, s)
  | [] => (none, s)

def takeWhole : List Char → List Char × List Char
  | '0' :: rest => (['0'], rest)
  | s => (s.takeWhile Char.isDigit, s.dropWhile Char.isDigit)

def readNumber (s : List Char) : Except Stop (Value × List Char) :=
  let (negative, body) :=
    match s with
    | '-' :: rest => (true, rest)
    | _ => (false, s)
  let (whole, rest) := takeWhole body
  if whole.isEmpty then stop .value s
  else
    let (fraction, rest) := takeFraction rest
    let (power, rest) := takePower rest
    if fraction.isEmpty && power.isNone then
      if digitLimit < whole.length then stop (.integerTooLong whole.length) s
      else
        let n : Int := digitsFrom 0 whole
        .ok (.int (if negative then -n else n), rest)
    else
      let digits := digitsFrom 0 (whole ++ fraction)
      .ok (.real (.ofDecimal negative digits (power.getD 0 - fraction.length)), rest)

def literals : List (String × Value) :=
  [("null", .null), ("true", .bool true), ("false", .bool false), ("NaN", .real .nan),
   ("Infinity", .real (.infinite false)), ("-Infinity", .real (.infinite true))]

def readLiteral? (s : List Char) : Option (Value × List Char) :=
  literals.findSome? fun (word, value) =>
    if word.toList.isPrefixOf s then some (value, s.drop word.length) else none

mutual

/-- One value at the very start of the characters. The fuel bounds the nesting and the number
of parts; twice the length of the document is enough. -/
def readValue : Nat → List Char → Except Stop (Value × List Char)
  | 0, s => stop .value s
  | fuel + 1, s =>
    match s with
    | '"' :: rest => do
      let (chars, rest) ← readString s [] rest
      return (.text (String.ofList chars), rest)
    | '\x7b' :: rest =>
      match skipBlanks rest with
      | '\x7d' :: rest => .ok (.object [], rest)
      | rest => readEntries fuel [] rest
    | '[' :: rest =>
      match skipBlanks rest with
      | ']' :: rest => .ok (.list [], rest)
      | rest => readItems fuel [] rest
    | _ =>
      match readLiteral? s with
      | some found => .ok found
      | none => readNumber s

/-- The items of a list up to its closing bracket; `seen` holds earlier ones in reverse. -/
def readItems : Nat → List Value → List Char → Except Stop (Value × List Char)
  | 0, _, s => stop .value s
  | fuel + 1, seen, s => do
    let (item, rest) ← readValue fuel s
    match skipBlanks rest with
    | ']' :: rest => return (.list (item :: seen).reverse, rest)
    | ',' :: rest => readItems fuel (item :: seen) (skipBlanks rest)
    | rest => stop .comma rest

def readEntries : Nat → Entries → List Char → Except Stop (Value × List Char)
  | 0, _, s => stop .value s
  | fuel + 1, seen, s =>
    match s with
    | '"' :: rest => do
      let (key, rest) ← readString s [] rest
      match skipBlanks rest with
      | ':' :: rest =>
        let (value, rest) ← readValue fuel (skipBlanks rest)
        let entries := seen.set (String.ofList key) value
        match skipBlanks rest with
        | '\x7d' :: rest => return (.object entries, rest)
        | ',' :: rest => readEntries fuel entries (skipBlanks rest)
        | rest => stop .comma rest
      | rest => stop .colon rest
    | _ => stop .name s

end

/-- Where a document is wrong: line and column count from one, the character from zero. -/
structure ReadFault where
  complaint : Complaint
  line : Nat
  column : Nat
  char : Nat
  deriving DecidableEq, Repr

def ReadFault.message (f : ReadFault) : String :=
  f.complaint.message ++ ": line " ++ toString f.line ++ " column " ++ toString f.column
    ++ " (char " ++ toString f.char ++ ")"

def ReadFault.at (document : List Char) (fault : Stop) : ReadFault :=
  let char := document.length - fault.left
  let before := document.take char
  { complaint := fault.complaint
    line := before.count '\n' + 1
    column := (before.reverse.takeWhile (· != '\n')).length + 1
    char }

def readAll (document : List Char) : Except Stop Value :=
  match document with
  | '\ufeff' :: _ => .error ⟨.byteOrderMark, document.length⟩
  | _ => do
    let (value, rest) ← readValue (2 * document.length + 2) (skipBlanks document)
    match skipBlanks rest with
    | [] => return value
    | rest => .error ⟨.extra, rest.length⟩

def ofJson (document : List Char) : Except ReadFault Value :=
  match readAll document with
  | .ok value => .ok value
  | .error fault => .error (.at document fault)

end Understudy.Value
