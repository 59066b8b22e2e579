import Understudy.Value.Shown

/-! Writing JSON documents in ASCII, on one line or indented. -/

set_option autoImplicit false

namespace Understudy.Value

def units16 (c : Char) : List Nat :=
  let n := c.toNat
  if n < 0x10000 then [n] else [0xD800 + (n - 0x10000) / 0x400, 0xDC00 + (n - 0x10000) % 0x400]

def jsonChar (c : Char) : List Char :=
  if c == '"' then ['\\', '"']
  else if c == '\\' then ['\\', '\\']
  else if c == '\n' then ['\\', 'n']
  else if c == '\r' then ['\\', 'r']
  else if c == '\t' then ['\\', 't']
  else if c == '\x08' then ['\\', 'b']
  else if c == '\x0c' then ['\\', 'f']
  else if 0x20 ≤ c.toNat && c.toNat < 0x7f then [c]
  else (units16 c).flatMap fun unit => '\\' :: 'u' :: Text.hexDigits 4 unit

def jsonString (s : String) : String :=
  String.ofList ('"' :: s.toList.flatMap jsonChar ++ ['"'])

def jsonReal : Binary64 → String
  | .infinite negative => if negative then "-Infinity" else "Infinity"
  | .nan => "NaN"
  | x => x.text

def jsonBreak (depth : Nat) : String := "\n" ++ String.ofList (List.replicate (2 * depth) ' ')

mutual

def indented (depth : Nat) : Value → String
  | .null => "null"
  | .bool b => if b then "true" else "false"
  | .int n => toString n
  | .real x => jsonReal x
  | .text s => jsonString s
  | .list [] => "[]"
  | .list (v :: rest) =>
    "[" ++ jsonBreak (depth + 1) ++ v.indented (depth + 1) ++ indentedItems (depth + 1) rest
      ++ jsonBreak depth ++ "]"
  | .object [] => "\x7b\x7d"
  | .object ((key, v) :: rest) =>
    "\x7b" ++ jsonBreak (depth + 1) ++ jsonString key ++ ": " ++ v.indented (depth + 1)
      ++ indentedEntries (depth + 1) rest ++ jsonBreak depth ++ "\x7d"

def indentedItems (depth : Nat) : List Value → String
  | [] => ""
  | v :: rest => "," ++ jsonBreak depth ++ v.indented depth ++ indentedItems depth rest

def indentedEntries (depth : Nat) : Entries → String
  | [] => ""
  | (key, v) :: rest =>
    "," ++ jsonBreak depth ++ jsonString key ++ ": " ++ v.indented depth
      ++ indentedEntries depth rest

end

mutual

def compact : Value → String
  | .null => "null"
  | .bool b => if b then "true" else "false"
  | .int n => toString n
  | .real x => jsonReal x
  | .text s => jsonString s
  | .list items => "[" ++ ", ".intercalate (compactItems items) ++ "]"
  | .object entries => "\x7b" ++ ", ".intercalate (compactEntries entries) ++ "\x7d"

def compactItems : List Value → List String
  | [] => []
  | v :: rest => v.compact :: compactItems rest

def compactEntries : Entries → List String
  | [] => []
  | (key, v) :: rest => (jsonString key ++ ": " ++ v.compact) :: compactEntries rest

end

end Understudy.Value
