import Understudy.Double.Member.Text
import Understudy.Value.Reader

/-! Members of bytes. Only ASCII letters have a case. -/

set_option autoImplicit false

namespace Understudy

def Datum.soughtBytes (d : Datum) : Except Slip (List Char) :=
  match d with
  | .bytes _ => d.byteText
  | d => do
    let n ← d.integer
    if n < 0 || 256 ≤ n then throw .badValue else return [Char.ofNat n.toNat]

def Script.bytes : Script where
  read := Datum.byteText
  sought := Datum.soughtBytes
  write := Datum.ofByteText
  isBlank := Text.isAsciiBlank
  endsLine := fun c => c == '\n' || c == '\r'

namespace Text

def asciiTitle : Bool → List Char → List Char
  | _, [] => []
  | inWord, c :: rest =>
    (if inWord then c.toLower else c.toUpper) :: asciiTitle c.isAlpha rest

def asciiCapitalize : List Char → List Char
  | [] => []
  | c :: rest => c.toUpper :: rest.map Char.toLower

/-- Whether ASCII capitals stand only at the beginning of words, and small letters only inside. -/
def fitsAsciiTitle : Bool → List Char → Bool
  | _, [] => true
  | inWord, c :: rest =>
    (if c.isUpper then !inWord else if c.isLower then inWord else true)
      && fitsAsciiTitle c.isAlpha rest

/-- Bytes by pairs of hexadecimal digits, with blanks between them. The fuel bounds their
number. -/
def readHexPairs : Nat → List Char → Option (List Char)
  | 0, _ => some []
  | fuel + 1, s =>
    match s.dropWhile isAsciiBlank with
    | [] => some []
    | a :: b :: rest => do
      let n := 16 * (← Value.hexValue? a) + (← Value.hexValue? b)
      return Char.ofNat n :: (← readHexPairs fuel rest)
    | _ => none

/-- Pairs of digits with a mark between groups of so many, counted from the end. -/
def groupPairs (size : Nat) (mark : Char) : List (List Char) → List Char
  | [] => []
  | pair :: rest =>
    pair ++ (if !rest.isEmpty && rest.length % size = 0 then [mark] else [])
      ++ groupPairs size mark rest

end Text

namespace Member

def bytesTest? (s : List Char) : String → Option Member
  | "isalnum" => some (every Char.isAlphanum s)
  | "isalpha" => some (every Char.isAlpha s)
  | "isascii" => some (fixedTruth (s.all fun c => c.toNat < 0x80))
  | "isdigit" => some (every Char.isDigit s)
  | "islower" => some (fixedTruth (s.any Char.isLower && !s.any Char.isUpper))
  | "isspace" => some (every Text.isAsciiBlank s)
  | "istitle" => some (fixedTruth (s.any Char.isAlpha && Text.fitsAsciiTitle false s))
  | "isupper" => some (fixedTruth (s.any Char.isUpper && !s.any Char.isLower))
  | _ => none

def bytesCase? (s : List Char) : String → Option Member
  | "capitalize" => some (fixed (.ofByteText (Text.asciiCapitalize s)))
  | "lower" => some (fixed (.ofByteText (s.map Char.toLower)))
  | "swapcase" =>
    some (fixed (.ofByteText (s.map fun c => if c.isUpper then c.toLower else c.toUpper)))
  | "title" => some (fixed (.ofByteText (Text.asciiTitle false s)))
  | "upper" => some (fixed (.ofByteText (s.map Char.toUpper)))
  | _ => none

def hexMark (h : Heap) (d : Datum) : Except Slip Char := do
  if (← h.length d) ≠ 1 then throw .badValue
  let chars ←
    match d with
    | .bytes _ => d.byteText
    | d => d.text
  match chars with
  | [c] => if c.toNat < 0x80 then return c else throw .badValue
  | _ => throw .badValue

/-- Bytes in hexadecimal, in groups from the end, or from the beginning if their size is below
zero. -/
def hexOf (s : List Char) (h : Heap) (args : List Datum) : Except Slip Datum := do
  let pairs := s.map fun c => Text.hexDigits 2 c.toNat
  match args with
  | [] => return .ofChars pairs.flatten
  | mark :: more =>
    let size ←
      match more with
      | [] => pure 1
      | [d] => d.word 32
      | _ => throw .wrongType
    let mark ← hexMark h mark
    if size = 0 then return .ofChars pairs.flatten
    else if 0 < size then return .ofChars (Text.groupPairs size.natAbs mark pairs)
    else
      let turned := pairs.reverse.map List.reverse
      return .ofChars (Text.groupPairs size.natAbs mark turned).reverse

def byteTable (old new : List Char) : Except Slip Datum :=
  if old.length ≠ new.length then .error .badValue
  else
    let taken (n : Nat) : Char :=
      (((old.zip new).reverse.find? (·.1.toNat == n)).map (·.2)).getD (Char.ofNat n)
    .ok (.ofByteText ((List.range 256).map taken))

def readByteTable (d : Datum) : Except Slip (Option (List Char)) := do
  if d.isNothing then return none
  let table ← d.byteText
  if table.length = 256 then return some table else throw .badValue

def translateBytes (s : List Char) (args : List Datum) : Except Slip Datum := do
  let (table, dropped) ←
    match args with
    | [table] => pure (← readByteTable table, [])
    | [table, dropped] => pure (← readByteTable table, ← dropped.byteText)
    | _ => throw .wrongType
  let kept := s.filter (!dropped.contains ·)
  return .ofByteText (kept.map fun c => (table.bind (·[c.toNat]?)).getD c)

def bytesComposition? (data : List UInt8) (s : List Char) : String → Option Member
  | "decode" =>
    some (reading fun _ args => do
      match ← encodingArguments args with
      | (some e, way) =>
        if data.isEmpty then return .ofChars [] else return .ofChars (← Text.decode e way data)
      | (none, _) => if data.isEmpty then return .ofChars [] else throw .unknownEncoding)
  | "fromhex" =>
    some (reading fun _ args =>
      match args with
      | [d] => do
        let digits ← d.text
        match Text.readHexPairs (digits.length + 1) digits with
        | some s => return .ofByteText s
        | none => throw .badValue
      | _ => .error .wrongType)
  | "hex" => some (reading (hexOf s))
  | "maketrans" =>
    some (reading fun _ args =>
      match args with
      | [old, new] => do byteTable (← old.byteText) (← new.byteText)
      | _ => .error .wrongType)
  | "translate" => some (reading fun _ => translateBytes s)
  | _ => none

def ofBytes? (data : List UInt8) (name : String) : Option Member :=
  let s := data.map fun b => Char.ofNat b.toNat
  if name == "__bytes__" then some (fixed (.bytes data))
  else
    Script.bytes.member? s name <|> bytesTest? s name <|> bytesCase? s name
      <|> bytesComposition? data s name
      <|> Script.bytes.row? .bytes (data.map fun b => .int b.toNat) s name

end Member
end Understudy
