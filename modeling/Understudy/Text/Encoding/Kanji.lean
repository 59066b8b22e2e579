import Understudy.Text.Chart.Kanji
import Understudy.Text.Encoding.Stepwise

/-! Encodings of kanji and kana.

A place on the chart is written with the highest bits set, or shifted so that two rows share their
first byte and kana of half width have bytes of their own.
-/

set_option autoImplicit false

namespace Understudy.Text.Kanji

def halfByte? (c : Char) : Option Nat :=
  if 0xff61 ≤ c.toNat && c.toNat ≤ 0xff9f then some (c.toNat - 0xfec0) else none

def halfChar? (b : Nat) : Option Char :=
  if 0xa1 ≤ b && b ≤ 0xdf then some (Char.ofNat (b + 0xfec0)) else none

def shifted (place : Nat × Nat) : Nat × Nat :=
  let (row, cell) := (place.1 - 0x21, place.2 - 0x21)
  let n := cell + (if row % 2 = 1 then 94 else 0)
  (row / 2 + (if row < 0x3e then 0x81 else 0xc1), n + (if n < 0x3f then 0x40 else 0x41))

def isShiftedLead (a : Nat) : Bool := 0x81 ≤ a && a ≤ 0x9f || 0xe0 ≤ a && a ≤ 0xfc

def unshifted? (a b : Nat) : Option (Nat × Nat) :=
  if isShiftedLead a && 0x40 ≤ b && b ≤ 0xfc && b != 0x7f then
    let row := a - (if a < 0xe0 then 0x81 else 0xc1)
    let n := b - (if b < 0x80 then 0x40 else 0x41)
    some (2 * row + n / 94, n % 94 + 0x21)
  else none

def shiftedChar? (a b : Nat) : Option Char :=
  (unshifted? a b).bind fun (row, cell) => kanji.charAt? (row + 0x21) cell

def romanByte? (c : Char) : Option Nat :=
  if c == '\u00a5' then some 0x5c else if c == '\u203e' then some 0x7e else none

def oneByte (n : Nat) : List UInt8 := [UInt8.ofNat n]

def shiftBytes? (c : Char) : Option (List UInt8) :=
  ((romanByte? c).or (halfByte? c)).map oneByte |>.or
    ((kanji.placeOf? c).map fun place => pairBytes (shifted place))

def readShift : List UInt8 → Reading
  | [] => .cut
  | a :: rest =>
    match halfChar? a.toNat, rest with
    | some c, _ => .chars [c] 1
    | none, [] => if isShiftedLead a.toNat then .cut else .fault 1
    | none, b :: _ => .ofChar 2 (shiftedChar? a.toNat b.toNat)

def shift : Stepwise Unit := .single shiftBytes? readShift

def singleSigns : List (Char × Nat) :=
  [('\u0080', 0x80), ('\uf8f0', 0xa0), ('\uf8f1', 0xfd), ('\uf8f2', 0xfe), ('\uf8f3', 0xff)]

def privateChar? (a b : Nat) : Option Char :=
  if 0xf0 ≤ a && a ≤ 0xf9 then
    (unshifted? a b).map fun (row, cell) => Char.ofNat (0xe000 + 94 * (row - 0x5e) + (cell - 0x21))
  else none

def privateCode? (c : Char) : Option (Nat × Nat) :=
  let n := c.toNat - 0xe000
  if 0xe000 ≤ c.toNat && n < 20 * 94 then some (shifted (n / 94 + 0x7f, n % 94 + 0x21)) else none

def pageBytes? (c : Char) : Option (List UInt8) :=
  (((singleSigns.find? (·.1 == c)).map (·.2)).or (halfByte? c)).map oneByte |>.or
    ((((kanji.placeOf? c).map shifted).or ((kanjiPage.placeOf? c).or (privateCode? c))).map
      pairBytes)

def readPage : List UInt8 → Reading
  | [] => .cut
  | a :: rest =>
    match (halfChar? a.toNat).or ((singleSigns.find? (·.2 == a.toNat)).map (·.1)), rest with
    | some c, _ => .chars [c] 1
    | none, [] => .cut
    | none, b :: _ =>
      let (a, b) := (a.toNat, b.toNat)
      .ofChar 2 ((kanjiPage.charAt? a b).or ((shiftedChar? a b).or (privateChar? a b)))

def page : Stepwise Unit := .single pageBytes? readPage

def highBytes? (c : Char) : Option (List UInt8) :=
  if let some n := romanByte? c then some (oneByte n)
  else if let some n := halfByte? c then some (pairBytes (0x8e, n))
  else if let some place := kanji.placeOf? c then some (highBytes place)
  else (kanjiSupplement.placeOf? c).map fun place => 0x8f :: highBytes place

def readingOf (taken extent : Nat) : Option (List Char) → Reading
  | some text => .chars text taken
  | none => .fault extent

/-- Read bytes with their highest bits set, by what two and three bytes mean. Of a pair that means
nothing so many bytes are at fault. -/
def readHigh (first second : Nat → Nat → Option (List Char)) (extent : Nat → Nat → Nat) :
    List UInt8 → Reading
  | 0x8e :: rest =>
    match rest with
    | [] => .cut
    | b :: _ => .ofChar 2 (halfChar? b.toNat)
  | 0x8f :: rest =>
    match rest with
    | a :: b :: _ => readingOf 3 1 (second a.toNat b.toNat)
    | _ => .cut
  | a :: b :: _ => readingOf 2 (extent a.toNat b.toNat) (first a.toNat b.toNat)
  | _ => .cut

def high : Stepwise Unit :=
  .single highBytes?
    (readHigh (fun a b => (kanji.charAtHigh? a b).map ([·]))
      (fun a b => (kanjiSupplement.charAtHigh? a b).map ([·])) fun _ _ => 1)

/-- An edition of the extended set: the later one has some more kanji. -/
inductive Edition where
  | earlier
  | later
  deriving DecidableEq, Repr

def combined : List ((Char × Char) × Nat × Nat) :=
  let mark (base second row cell : Nat) : (Char × Char) × Nat × Nat :=
    ((Char.ofNat base, Char.ofNat second), row, cell)
  [mark 0x304b 0x309a 0x24 0x77, mark 0x304d 0x309a 0x24 0x78, mark 0x304f 0x309a 0x24 0x79,
   mark 0x3051 0x309a 0x24 0x7a, mark 0x3053 0x309a 0x24 0x7b, mark 0x30ab 0x309a 0x25 0x77,
   mark 0x30ad 0x309a 0x25 0x78, mark 0x30af 0x309a 0x25 0x79, mark 0x30b1 0x309a 0x25 0x7a,
   mark 0x30b3 0x309a 0x25 0x7b, mark 0x30bb 0x309a 0x25 0x7c, mark 0x30c4 0x309a 0x25 0x7d,
   mark 0x30c8 0x309a 0x25 0x7e, mark 0x31f7 0x309a 0x26 0x78, mark 0x00e6 0x0300 0x2b 0x44,
   mark 0x0254 0x0300 0x2b 0x48, mark 0x0254 0x0301 0x2b 0x49, mark 0x028c 0x0300 0x2b 0x4a,
   mark 0x028c 0x0301 0x2b 0x4b, mark 0x0259 0x0300 0x2b 0x4c, mark 0x0259 0x0301 0x2b 0x4d,
   mark 0x025a 0x0300 0x2b 0x4e, mark 0x025a 0x0301 0x2b 0x4f, mark 0x02e9 0x02e5 0x2b 0x65,
   mark 0x02e5 0x02e9 0x2b 0x66]

def laterKanji : List Char := "俱剝吞噓姸屛幷瘦繫鬜𠮟".toList

def earlierKanji : Char × Nat × Nat := ('鬝', 0x7d, 0x3b)

/-- The places of a backslash and a tilde, which may be signs of full width. -/
def backslashPlace : Nat × Nat := (0x21, 0x40)

def tildePlace : Nat × Nat := (0x22, 0x32)

namespace Edition

def admits (e : Edition) (c : Char) : Bool := e == .later || !laterKanji.contains c

def combined? (row cell : Nat) : Option (List Char) :=
  (combined.find? fun (_, r, c) => r == row && c == cell).map fun ((a, b), _) => [a, b]

def firstChar? (row cell : Nat) : Option Char :=
  (kanji.charAt? row cell).or (kanjiExtension.charAt? row cell)

/-- How much of a code is at fault, by its place: all of it where the edition lacks a kanji. -/
def extent (e : Edition) (row cell : Nat) : Nat :=
  if (firstChar? row cell).all e.admits then 1 else 2

def firstPlane? (e : Edition) (row cell : Nat) : Option (List Char) :=
  (combined? row cell).or
    (((firstChar? row cell).filter e.admits).map ([·]))

def secondPlane? (e : Edition) (row cell : Nat) : Option (List Char) :=
  let (c, place) := earlierKanji
  if e == .earlier && place == (row, cell) then some [c]
  else ((kanjiSecondPlane.charAt? row cell).filter e.admits).map ([·])

/-- The place of the characters at the beginning of a text, on the first plane or the second one,
and their number. -/
def place? (e : Edition) : List Char → Option (Bool × (Nat × Nat) × Nat)
  | [] => none
  | c :: rest =>
    match rest.head?.bind fun mark => combined.find? (·.1 == (c, mark)) with
    | some (_, place) => some (true, place, 2)
    | none =>
      if e == .earlier && c == earlierKanji.1 then some (false, earlierKanji.2, 1)
      else if !e.admits c then none
      else
        ((kanjiExtension.placeOf? c).map fun place => (true, place, 1)).or
          (((kanjiSecondPlane.placeOf? c).map fun place => (false, place, 1)).or
            ((kanji.placeOf? c).map fun place => (true, place, 1)))

def writeHigh (e : Edition) (text : List Char) : Option (List UInt8 × Nat) :=
  match e.place? text, text.head? with
  | some (true, place, count), _ => some (highBytes place, count)
  | some (false, place, count), _ => some (0x8f :: highBytes place, count)
  | none, some c =>
    if !e.admits c then none
    else if let some n := halfByte? c then some (pairBytes (0x8e, n), 1)
    else if c == '\uff5e' then some (highBytes tildePlace, 1)
    else (kanjiSupplement.placeOf? c).map fun place => (0x8f :: highBytes place, 1)
  | none, none => none

def atHigh (find : Nat → Nat → Option (List Char)) (a b : Nat) : Option (List Char) :=
  if 0x80 ≤ a && 0x80 ≤ b then find (a - 0x80) (b - 0x80) else none

def high (e : Edition) : Stepwise Unit :=
  let first (row cell : Nat) : Option (List Char) :=
    if (row, cell) = tildePlace then some ['\uff5e'] else e.firstPlane? row cell
  let second (row cell : Nat) : Option (List Char) :=
    (e.secondPlane? row cell).or ((kanjiSupplement.charAt? row cell).map ([·]))
  .plain e.writeHigh
    (readHigh (atHigh first) (atHigh second) fun a b => e.extent (a - 0x80) (b - 0x80))

def secondRows : List Nat :=
  [0x21, 0x28, 0x23, 0x24, 0x25, 0x2c, 0x2d, 0x2e, 0x2f] ++ List.range' 0x6e 17

def firstRows : Nat := 94

def writeShift (e : Edition) (text : List Char) : Option (List UInt8 × Nat) := do
  let c ← text.head?
  if let some n := (romanByte? c).or (halfByte? c) then some (oneByte n, 1)
  else if c == '\\' then some (pairBytes (shifted backslashPlace), 1)
  else if c == '\uff3c' then none
  else if c.toNat < 0x80 && c != '~' then some (oneByte c.toNat, 1)
  else
    match ← e.place? text with
    | (true, place, count) => some (pairBytes (shifted place), count)
    | (false, (row, cell), count) =>
      let n ← secondRows.idxOf? row
      some (pairBytes (shifted (0x21 + firstRows + n, cell)), count)

def shifted? (e : Edition) (a b : Nat) : Option (List Char) := do
  let (row, cell) ← unshifted? a b
  if (row + 0x21, cell) = backslashPlace then some ['\\']
  else if row < firstRows then e.firstPlane? (row + 0x21) cell
  else e.secondPlane? (← secondRows[row - firstRows]?) cell

def readShift (e : Edition) : List UInt8 → Reading
  | [] => .cut
  | a :: rest =>
    let n := a.toNat
    let single : Option Char :=
      if n = 0x5c then some '\u00a5'
      else if n = 0x7e then some '\u203e'
      else if n < 0x80 then some (Char.ofNat n)
      else halfChar? n
    match single, rest with
    | some c, _ => .chars [c] 1
    | none, [] => if isShiftedLead n then .cut else .fault 1
    | none, b :: _ =>
      let extent :=
        match unshifted? n b.toNat with
        | some (row, cell) => e.extent (row + 0x21) cell
        | none => 1
      readingOf 2 extent (e.shifted? n b.toNat)

def shift (e : Edition) : Stepwise Unit where
  start := ()
  write := fun _ text => (e.writeShift text).map fun (bytes, count) => (bytes, count, ())
  close := fun _ => []
  read := fun _ data => (e.readShift data, ())

end Edition
end Understudy.Text.Kanji
