import Understudy.Text.CharName.Ancient
import Understudy.Text.CharName.Letters
import Understudy.Text.CharName.Pictures
import Understudy.Text.CharName.Syllables
import Understudy.Text.CharName.Symbols
import Understudy.Text.Blank
import Understudy.Text.Cut
import Understudy.Value.Reader

/-! Names of characters, Unicode 14.

Names are listed by rows of 256 characters. An entry tells how many words its name shares with the
name before it, and then the others; a number in front of it tells its place, if that is not the
next one. The names of ideographs hold their numbers, and those of syllables what they are made of.
Further names of characters and names of sequences have places of their own beyond all characters.
Texts are encoded by names where an encoding lacks a character and the name is to stand for it.
-/

set_option autoImplicit false

namespace Understudy.Text

def nameRows : List (Nat × String) :=
  lettersNames ++ symbolsNames ++ syllablesNames ++ ancientNames ++ picturesNames

def sharedName (before : List (List Char)) (entry : List Char) : List (List Char) :=
  before.take (Value.digitsNumber 10 (entry.take 1)) ++ runs (· != ' ') (entry.drop 1)

def readNames : Nat → List (List Char) → List (List Char) → List (Nat × List Char)
  | _, _, [] => []
  | next, before, entry :: rest =>
    let (place, entry) :=
      match cutFirst ['='] entry with
      | some (place, entry) => (Value.digitsNumber 16 place, entry)
      | none => (next, entry)
    let name := sharedName before entry
    (place, [' '].intercalate name) :: readNames (place + 1) name rest

def namesOfRow (row : String) : List (Nat × List Char) :=
  let entries := runs (· != ';') row.toList
  readNames 0 [] (entries.map (·.dropWhile fun c => c == ' ' || c == '\n'))

def ideographLead : String := "CJK UNIFIED IDEOGRAPH-"

def ideographs : List (Nat × Nat) :=
  [(0x3400, 0x4dbf), (0x4e00, 0x9fff), (0x20000, 0x2a6df), (0x2a700, 0x2b738), (0x2b740, 0x2b81d),
   (0x2b820, 0x2cea1), (0x2ceb0, 0x2ebe0), (0x30000, 0x3134a)]

def numberedNames : List (String × List (Nat × Nat)) :=
  [("CJK COMPATIBILITY IDEOGRAPH-", [(0xf900, 0xfa6d), (0xfa70, 0xfad9), (0x2f800, 0x2fa1d)]),
   ("KHITAN SMALL SCRIPT CHARACTER-", [(0x18b00, 0x18cd5)]),
   ("NUSHU CHARACTER-", [(0x1b170, 0x1b2fb)])]

def isNumberedIn (ranges : List (Nat × Nat)) (n : Nat) : Bool :=
  ranges.any fun (first, last) => first ≤ n && n ≤ last

def capitalHex (n : Nat) : List Char := (Nat.toDigits 16 n).map Char.toUpper

def syllableLeads : List String :=
  ["G", "GG", "N", "D", "DD", "R", "M", "B", "BB", "S", "SS", "", "J", "JJ", "C", "K", "T", "P", "H"]

def syllableVowels : List String :=
  ["A", "AE", "YA", "YAE", "EO", "E", "YEO", "YE", "O", "WA", "WAE", "OE", "YO", "U", "WEO", "WE",
   "WI", "YU", "EU", "YI", "I"]

def syllableTails : List String :=
  ["", "G", "GG", "GS", "N", "NJ", "NH", "D", "L", "LG", "LM", "LB", "LS", "LT", "LP", "LH", "M",
   "B", "BS", "S", "SS", "NG", "J", "C", "K", "T", "P", "H"]

def syllableLead : String := "HANGUL SYLLABLE "

def syllableName (n : Nat) : String :=
  syllableLead ++ syllableLeads.getD (n / 588) "" ++ syllableVowels.getD (n % 588 / 28) ""
    ++ syllableTails.getD (n % 28) ""

def charName? (c : Char) : Option (List Char) :=
  let n := c.toNat
  if 0xac00 ≤ n && n < 0xac00 + 11172 then some (syllableName (n - 0xac00)).toList
  else
    match ((ideographLead, ideographs) :: numberedNames).find? (isNumberedIn ·.2 n) with
    | some (lead, _) => some (lead.toList ++ capitalHex n)
    | none =>
      (nameRows.find? (·.1 == n / 256)).bind fun (_, row) =>
        ((namesOfRow row).find? (·.1 == n % 256)).map (·.2)

def syllableOfName? (name : List Char) : Option Char :=
  ((List.range 11172).find? fun n => (syllableName n).toList == name).map fun n =>
    Char.ofNat (0xac00 + n)

/-- Where the places of further names begin, and those of names of sequences. -/
def furtherStart : Nat := 0xf0000

def sequenceStart : Nat := 0xf0200

/-- The characters with further names, in the order of these: the first and the last one of a run,
and how many names each of them has. -/
def furtherNamed : List (Nat × Nat × Nat) :=
  [(0x0, 0x8, 2), (0x9, 0x9, 4), (0xa, 0xa, 6), (0xb, 0xb, 3), (0xc, 0xd, 2), (0xe, 0xf, 3),
   (0x10, 0x1b, 2), (0x1c, 0x1f, 3), (0x20, 0x20, 1), (0x7f, 0x87, 2), (0x88, 0x8f, 3),
   (0x90, 0x90, 2), (0x91, 0x92, 3), (0x93, 0x95, 2), (0x96, 0x97, 3), (0x98, 0x9f, 2),
   (0xa0, 0xa0, 1), (0xad, 0xad, 1), (0x1a2, 0x1a3, 1), (0x34f, 0x34f, 1), (0x61c, 0x61c, 1),
   (0x709, 0x709, 1), (0xcde, 0xcde, 1), (0xe9d, 0xe9d, 1), (0xe9f, 0xe9f, 1), (0xea3, 0xea3, 1),
   (0xea5, 0xea5, 1), (0xfd0, 0xfd0, 1), (0x11ec, 0x11ef, 1), (0x180b, 0x180f, 1),
   (0x200b, 0x200f, 1), (0x202a, 0x202f, 1), (0x205f, 0x2060, 1), (0x2066, 0x2069, 1),
   (0x2118, 0x2118, 1), (0x2448, 0x2449, 1), (0x2b7a, 0x2b7a, 1), (0x2b7c, 0x2b7c, 1),
   (0xa015, 0xa015, 1), (0xaa6e, 0xaa6e, 1), (0xfe00, 0xfe0f, 1), (0xfe18, 0xfe18, 1),
   (0xfeff, 0xfeff, 3), (0x122d4, 0x122d5, 1), (0x16e56, 0x16e57, 1), (0x16e76, 0x16e77, 1),
   (0x1b001, 0x1b001, 1), (0x1d0c5, 0x1d0c5, 1), (0xe0100, 0xe01ef, 1)]

def furtherMeanings : List Nat :=
  furtherNamed.flatMap fun (first, last, count) =>
    (List.range (last + 1 - first)).flatMap fun n => List.replicate count (first + n)

def meaningOfPlace? (n : Nat) : Option Char :=
  if n < furtherStart then some (Char.ofNat n)
  else if sequenceStart ≤ n then none
  else (furtherMeanings[n - furtherStart]?).map Char.ofNat

def numberedOfName? (name : List Char) : Option Char :=
  numberedNames.findSome? fun (lead, ranges) =>
    let digits := name.drop lead.length
    let n := Value.digitsNumber 16 digits
    if lead.toList.isPrefixOf name && capitalHex n == digits && isNumberedIn ranges n then
      some (Char.ofNat n)
    else none

def ideographOfNumber? (digits : List Char) : Option Char :=
  let n := Value.digitsNumber 16 digits
  let isDigit (c : Char) : Bool := c.isDigit || 'A' ≤ c && c ≤ 'F'
  if (digits.length == 4 || digits.length == 5) && digits.all isDigit
      && isNumberedIn ideographs n then some (Char.ofNat n)
  else none

/-- The character with a name. The case of letters means something only in the names of syllables
and ideographs. -/
def charOfName? (name : List Char) : Option Char :=
  if syllableLead.toList.isPrefixOf name then syllableOfName? name
  else if ideographLead.toList.isPrefixOf name then
    ideographOfNumber? (name.drop ideographLead.length)
  else
    let name := name.map Char.toUpper
    (numberedOfName? name).or
      (nameRows.findSome? fun (row, names) =>
        ((namesOfRow names).find? (·.2 == name)).bind fun (place, _) =>
          meaningOfPlace? (256 * row + place))

end Understudy.Text
