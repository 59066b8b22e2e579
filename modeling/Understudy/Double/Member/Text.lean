import Understudy.Double.Member.Script
import Understudy.Text.Case
import Understudy.Text.Encoding
import Understudy.Text.Identifier

/-! Members of texts. -/

set_option autoImplicit false

namespace Understudy

def Script.text : Script where
  read := Datum.text
  sought := Datum.text
  write := Datum.ofChars
  isBlank := Text.isBlank
  endsLine := Text.isLineEnd

namespace Member

def every (test : Char → Bool) (s : List Char) : Member := fixedTruth (!s.isEmpty && s.all test)

def textTest? (s : List Char) : String → Option Member
  | "isalnum" => some (every (fun c => Text.isLetter c || Text.isNumeric c) s)
  | "isalpha" => some (every Text.isLetter s)
  | "isascii" => some (fixedTruth (s.all fun c => c.toNat < 0x80))
  | "isdecimal" => some (every Text.isDecimal s)
  | "isdigit" => some (every Text.isDigitLike s)
  | "isidentifier" => some (fixedTruth (Text.isIdentifier s))
  | "islower" => some (fixedTruth (Text.isLowerText s))
  | "isnumeric" => some (every Text.isNumeric s)
  | "isprintable" => some (fixedTruth (s.all Text.isPrintable))
  | "isspace" => some (every Text.isBlank s)
  | "istitle" => some (fixedTruth (Text.isTitleText s))
  | "isupper" => some (fixedTruth (Text.isUpperText s))
  | _ => none

def textCase? (s : List Char) : String → Option Member
  | "capitalize" => some (fixed (.ofChars (Text.capitalize s)))
  | "casefold" => some (fixed (.ofChars (Text.toFolded s)))
  | "lower" => some (fixed (.ofChars (Text.toLower s)))
  | "swapcase" => some (fixed (.ofChars (Text.swapCase s)))
  | "title" => some (fixed (.ofChars (Text.toTitle s)))
  | "upper" => some (fixed (.ofChars (Text.toUpper s)))
  | _ => none

def singleNumber (s : List Char) : Except Slip Datum :=
  match s with
  | [c] => .ok (.plain (.int c.toNat))
  | _ => .error .badValue

def entriesOf (h : Heap) (added : List (Datum × Datum)) : Except Slip (List (Datum × Datum)) :=
  added.foldlM (fun entries (key, d) => h.withEntry entries key d) []

def tableOfObject (h : Heap) (entries : List (Datum × Datum)) :
    Except Slip (List (Datum × Datum)) := do
  entriesOf h (← entries.mapM fun (key, d) =>
    match key with
    | .plain (.text s) => return (← singleNumber s.toList, d)
    | key => do
      let _ ← key.integer
      return (key, d))

def tableOfTexts (h : Heap) (old new dropped : List Char) :
    Except Slip (List (Datum × Datum)) := do
  let number (c : Char) : Datum := .plain (.int c.toNat)
  if old.length ≠ new.length then throw .badValue
  entriesOf h
    ((old.zip new).map (fun (a, b) => (number a, number b))
      ++ dropped.map fun c => (number c, .nothing))

def makeTable (h : Heap) (args : List Datum) : Except Slip (List (Datum × Datum)) :=
  match args with
  | [.cell address] =>
    match h.get? address with
    | some (.object entries) => tableOfObject h entries
    | _ => .error .wrongType
  | [a, b] => do tableOfTexts h (← a.text) (← b.text) []
  | [a, b, c] => do tableOfTexts h (← a.text) (← b.text) (← c.text)
  | _ => .error .wrongType

/-- What a table makes of a character. One that the table lacks stays. -/
def translateChar (h : Heap) (table : Datum) (c : Char) : Except Slip (List Char) :=
  match h.part table (.plain (.int c.toNat)) with
  | .error .noKey | .error .outOfRange => .ok [c]
  | .error slip => .error slip
  | .ok (.plain .null) => .ok []
  | .ok (.plain (.text s)) => .ok s.toList
  | .ok d => do
    let n ← d.integer
    if n < 0 || 0x10ffff < n then throw .badValue else return [Char.ofNat n.toNat]

def encodingArguments (args : List Datum) : Except Slip (Option Text.Encoding × String) := do
  let (name, way) ←
    match args with
    | [] => pure ("utf-8".toList, "strict".toList)
    | [name] => pure (← name.text, "strict".toList)
    | [name, way] => pure (← name.text, ← way.text)
    | _ => throw .wrongType
  if name.contains '\x00' || way.contains '\x00' then throw .badValue
  return (Text.Encoding.ofName? name, String.ofList way)

def encoding (s : List Char) : Member :=
  reading fun _ args => do
    match ← encodingArguments args with
    | (some e, way) => return .bytes (← Text.encode e way s)
    | (none, _) => throw .unknownEncoding

def textComposition? (s : List Char) : String → Option Member
  | "encode" => some (encoding s)
  | "format" => some (.template s false)
  | "format_map" => some (.template s true)
  | "maketrans" =>
    some (.operation fun args => do
      Work.allocate (.object (← Work.ask fun h => makeTable h args)))
  | "translate" =>
    some (reading fun h args =>
      match args with
      | [table] => do return .ofChars (← s.mapM (translateChar h table)).flatten
      | _ => .error .wrongType)
  | _ => none

def ofText? (s : List Char) (name : String) : Option Member :=
  Script.text.member? s name <|> textTest? s name <|> textCase? s name
    <|> textComposition? s name
    <|> Script.text.row? .text (s.map fun c => .ofChars [c]) s name

end Member
end Understudy
