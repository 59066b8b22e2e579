import Understudy.Text.CodePage
import Understudy.Text.Encoding.Punycode
import Understudy.Text.Encoding.Eastern
import Understudy.Text.Encoding.Escape
import Understudy.Text.Encoding.Shifted
import Understudy.Text.Utf8

/-! Texts as bytes.

An encoding is known by several names, in which case and punctuation mean nothing. What becomes of
a character that an encoding lacks, or of bytes that mean nothing, is chosen by name too.

What a double answers may be a text, and a test may call any member of it by name: to encode it, or
to decode what was encoded. So there is no telling which encodings will be named, and the charts of
all of them are here. No theorem depends on what a chart holds.
-/

set_option autoImplicit false

namespace Understudy.Text

inductive Encoding where
  | utf8
  | markedUtf8
  | ascii
  | latin
  | page (p : CodePage)
  | eastern (e : Eastern)
  /-- Units of two bytes, with a mark at the beginning unless the order of bytes is fixed. -/
  | utf16 (marked bigEnd : Bool)
  | utf32 (marked bigEnd : Bool)
  | escaped (raw : Bool)
  | shifted
  | punycode
  | domain
  | undefined
  deriving DecidableEq, Repr

def encodingNames : List (Encoding × String × List String) :=
  [(.utf8, "utf_8", ["cp65001", "u8", "utf", "utf8", "utf8_ucs2", "utf8_ucs4"]),
   (.markedUtf8, "utf_8_sig", []),
   (.ascii, "ascii", ["646", "ansi_x3.4_1968", "ansi_x3.4_1986", "ansi_x3_4_1968", "cp367",
     "csascii", "ibm367", "iso646_us", "iso_646.irv_1991", "iso_ir_6", "us", "us_ascii"]),
   (.latin, "latin_1", ["8859", "cp819", "csisolatin1", "ibm819", "iso8859", "iso8859_1",
     "iso_8859_1", "iso_8859_1_1987", "iso_ir_100", "l1", "latin", "latin1"]),
   (.latin, "charmap", []),
   (.utf16 true false, "utf_16", ["u16", "utf16"]),
   (.utf16 false false, "utf_16_le", ["unicodelittleunmarked", "utf_16le"]),
   (.utf16 false true, "utf_16_be", ["unicodebigunmarked", "utf_16be"]),
   (.utf32 true false, "utf_32", ["u32", "utf32"]),
   (.utf32 false false, "utf_32_le", ["utf_32le"]),
   (.utf32 false true, "utf_32_be", ["utf_32be"]),
   (.escaped false, "unicode_escape", []),
   (.escaped true, "raw_unicode_escape", []),
   (.shifted, "utf_7", ["u7", "unicode_1_1_utf_7", "utf7"]),
   (.punycode, "punycode", []),
   (.domain, "idna", []),
   (.undefined, "undefined", [])]

def allEncodings : List (Encoding × String × List String) :=
  encodingNames ++ codePages.map (fun p => (.page p, p.name, p.aliases))
    ++ Eastern.names.map fun (e, name, aliases) => (.eastern e, name, aliases)

def encodingWord (name : List Char) : String :=
  "_".intercalate ((runs (fun c => c.isAlphanum || c == '.') (name.map Char.toLower)).map
    String.ofList)

/-- The encoding with a name. In an alias a point counts as an underscore. -/
def Encoding.ofName? (name : List Char) : Option Encoding :=
  let word := encodingWord name
  let plain := String.ofList (word.toList.map fun c => if c == '.' then '_' else c)
  (allEncodings.find? fun (_, name, aliases) =>
    name == word || aliases.contains word || aliases.contains plain).map (·.1)

def littleBytes : Nat → Nat → List UInt8
  | 0, _ => []
  | count + 1, n => UInt8.ofNat (n % 256) :: littleBytes count (n / 256)

def orderedBytes (bigEnd : Bool) (count n : Nat) : List UInt8 :=
  if bigEnd then (littleBytes count n).reverse else littleBytes count n

/-- The bytes of a character, unless an encoding lacks it or does not write one by one. -/
def Encoding.bytesOf? (e : Encoding) (c : Char) : Option (List UInt8) :=
  let n := c.toNat
  match e with
  | .utf8 | .markedUtf8 => some (String.ofList [c]).toUTF8.toList
  | .ascii => if n < 0x80 then some [UInt8.ofNat n] else none
  | .latin => if n < 0x100 then some [UInt8.ofNat n] else none
  | .page p => (p.byteOf? c).map ([·])
  | .utf16 _ bigEnd => some ((Value.units16 c).flatMap (orderedBytes bigEnd 2))
  | .utf32 _ bigEnd => some (orderedBytes bigEnd 4 n)
  | .eastern _ | .escaped .. | .shifted | .punycode | .domain | .undefined => none

def Encoding.mark : Encoding → List UInt8
  | .markedUtf8 => [0xef, 0xbb, 0xbf]
  | .utf16 true bigEnd => orderedBytes bigEnd 2 0xfeff
  | .utf32 true bigEnd => orderedBytes bigEnd 4 0xfeff
  | _ => []

/-- The bytes of a text in an encoding that writes characters one by one. What stands for a
character it lacks has to be in it. -/
def Encoding.bytesByChar (e : Encoding) (way : String) (s : List Char) :
    Except Slip (List UInt8) := do
  let known (c : Char) : Except Slip (List UInt8) :=
    match e.bytesOf? c with
    | some bytes => .ok bytes
    | none => .error .unencodable
  let chunks ← s.mapM fun c =>
    match e.bytesOf? c with
    | some bytes => Except.ok bytes
    | none => do return (← (← substitute way c).mapM known).flatten
  return e.mark ++ chunks.flatten

def bytesOfAscii (s : List Char) : List UInt8 := s.map fun c => UInt8.ofNat c.toNat

def encode (e : Encoding) (way : String) (s : List Char) : Except Slip (List UInt8) :=
  match e with
  | .escaped false => .ok (bytesOfAscii (s.flatMap escapedChar))
  | .escaped true => .ok (bytesOfAscii (s.flatMap rawEscapedChar))
  | .shifted => .ok (bytesOfAscii (Shifted.encode s))
  | .punycode => .ok (bytesOfAscii (Punycode.encode s))
  | .domain => (Domain.encode way s).map bytesOfAscii
  | .eastern e => e.encode way s
  | .undefined => .error .illFormed
  | e => e.bytesByChar way s

def decodeUtf8With (way : String) : Nat → List UInt8 → Except Slip (List Char)
  | 0, _ => .ok []
  | fuel + 1, data =>
    match decodeUtf8 data with
    | .ok s => .ok s
    | .error fault => do
      let before := data.take fault.position
      let after := data.drop (fault.position + fault.extent)
      let instead ← substituteBytes way ((data.drop fault.position).take fault.extent)
      let start := (decodeUtf8 before).toOption.getD []
      return start ++ instead ++ (← decodeUtf8With way fuel after)

def numberOfBytes (bigEnd : Bool) (data : List UInt8) : Nat :=
  (if bigEnd then data else data.reverse).foldl (fun n b => 256 * n + b.toNat) 0

def decodeUnits (way : String) (bigEnd : Bool) : Nat → List UInt8 → Except Slip (List Char)
  | fuel + 1, a :: b :: rest =>
    let unit := numberOfBytes bigEnd [a, b]
    let low := numberOfBytes bigEnd (rest.take 2)
    if !Value.isHighHalf unit && !Value.isLowHalf unit then do
      return Char.ofNat unit :: (← decodeUnits way bigEnd fuel rest)
    else if Value.isHighHalf unit && Value.isLowHalf low then do
      return Value.joinHalves unit low :: (← decodeUnits way bigEnd fuel (rest.drop 2))
    else if Value.isHighHalf unit && rest.length < 2 then substituteBytes way (a :: b :: rest)
    else do return (← substituteBytes way [a, b]) ++ (← decodeUnits way bigEnd fuel rest)
  | _, [] => .ok []
  | _, data => substituteBytes way data

def decodeQuads (way : String) (bigEnd : Bool) : Nat → List UInt8 → Except Slip (List Char)
  | fuel + 1, a :: b :: c :: d :: rest => do
    let n := numberOfBytes bigEnd [a, b, c, d]
    let char ← if n.isValidChar then pure [Char.ofNat n] else substituteBytes way [a, b, c, d]
    return char ++ (← decodeQuads way bigEnd fuel rest)
  | _, [] => .ok []
  | _, data => substituteBytes way data

/-- Whether the greatest byte comes first, and the bytes behind a mark that may say so. -/
def dropMark (marked bigEnd : Bool) (mark : Bool → List UInt8) (data : List UInt8) :
    Bool × List UInt8 :=
  if marked && (mark false).isPrefixOf data then (false, data.drop (mark false).length)
  else if marked && (mark true).isPrefixOf data then (true, data.drop (mark true).length)
  else (bigEnd, data)

def decode (e : Encoding) (way : String) (data : List UInt8) : Except Slip (List Char) :=
  let chars := data.map fun b => Char.ofNat b.toNat
  let byByte (charOf? : UInt8 → Option Char) : Except Slip (List Char) := do
    let chunks ← data.mapM fun b =>
      match charOf? b with
      | some c => Except.ok [c]
      | none => substituteBytes way [b]
    return chunks.flatten
  match e with
  | .utf8 => decodeUtf8With way (data.length + 1) data
  | .markedUtf8 =>
    decodeUtf8With way (data.length + 1) (if e.mark.isPrefixOf data then data.drop 3 else data)
  | .ascii => byByte fun b => if b.toNat < 0x80 then some (Char.ofNat b.toNat) else none
  | .latin => .ok chars
  | .page p => byByte p.charOf?
  | .eastern e => e.decode way data
  | .escaped false => readEscapes escapeMeaning way data.length chars
  | .escaped true => readEscapes rawEscapeMeaning way data.length chars
  | .shifted => Shifted.decode way chars
  | .punycode => Punycode.decode way data
  | .domain => Domain.decode way chars
  | .undefined => .error .illFormed
  | .utf16 marked bigEnd =>
    let (bigEnd, data) := dropMark marked bigEnd (orderedBytes · 2 0xfeff) data
    decodeUnits way bigEnd data.length data
  | .utf32 marked bigEnd =>
    let (bigEnd, data) := dropMark marked bigEnd (orderedBytes · 4 0xfeff) data
    decodeQuads way bigEnd data.length data

end Understudy.Text
