import Understudy.Number.Shortest
import Understudy.Text.Printable
import Understudy.Value.Basic

/-! The text by which messages show a value.

A text inside a message stands as it is; a value that is quoted shows its structure, with
texts in single quotes unless they hold a single quote and no double one.
-/

set_option autoImplicit false

namespace Understudy

namespace Text

def hexDigits (width n : Nat) : List Char :=
  let digits := Nat.toDigits 16 n
  List.replicate (width - digits.length) '0' ++ digits

def numberedChar (c : Char) : List Char :=
  if c.toNat < 0x100 then '\\' :: 'x' :: hexDigits 2 c.toNat
  else if c.toNat < 0x10000 then '\\' :: 'u' :: hexDigits 4 c.toNat
  else '\\' :: 'U' :: hexDigits 8 c.toNat

def asciiOnly (s : List Char) : List Char :=
  s.flatMap fun c => if c.toNat < 0x80 then [c] else numberedChar c

/-- A character inside quotes: the quote itself, backslashes and unprintable characters are
escaped. -/
def quotedChar (quote c : Char) : List Char :=
  if c == quote || c == '\\' then ['\\', c]
  else if c == '\n' then ['\\', 'n']
  else if c == '\r' then ['\\', 'r']
  else if c == '\t' then ['\\', 't']
  else if isPrintable c then [c]
  else numberedChar c

/-- The quote around a text: the single one, unless only the double one avoids an escape. -/
def quoteFor (s : List Char) : Char := if s.contains '\'' && !s.contains '"' then '"' else '\''

def quoted (s : String) : String :=
  let quote := quoteFor s.toList
  String.ofList (quote :: s.toList.flatMap (quotedChar quote) ++ [quote])

end Text

namespace Value

mutual

def quoted : Value → String
  | .null => "None"
  | .bool b => if b then "True" else "False"
  | .int n => toString n
  | .real x => x.text
  | .text s => Text.quoted s
  | .list items => "[" ++ ", ".intercalate (quotedItems items) ++ "]"
  | .object entries => "\x7b" ++ ", ".intercalate (quotedEntries entries) ++ "\x7d"

def quotedItems : List Value → List String
  | [] => []
  | v :: rest => v.quoted :: quotedItems rest

def quotedEntries : Entries → List String
  | [] => []
  | (key, v) :: rest => (Text.quoted key ++ ": " ++ v.quoted) :: quotedEntries rest

end

def shown : Value → String
  | .text s => s
  | v => v.quoted

end Value
end Understudy
