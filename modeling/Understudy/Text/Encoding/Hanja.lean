import Understudy.Text.Chart.Hanja
import Understudy.Text.Encoding.Stepwise

/-! Encodings of hangul and hanja.

The chart has the common syllables only. Others are written by their letters, or at further places
in their order; in one encoding every syllable is written by its letters.
-/

set_option autoImplicit false

namespace Understudy.Text.Hanja

def firstSyllable : Nat := 0xac00

def syllableCount : Nat := 11172

def leads : List Char := "ㄱㄲㄴㄷㄸㄹㅁㅂㅃㅅㅆㅇㅈㅉㅊㅋㅌㅍㅎ".toList

def vowels : List Char := "ㅏㅐㅑㅒㅓㅔㅕㅖㅗㅘㅙㅚㅛㅜㅝㅞㅟㅠㅡㅢㅣ".toList

def tails : List Char := "ㄱㄲㄳㄴㄵㄶㄷㄹㄺㄻㄼㄽㄾㄿㅀㅁㅂㅄㅅㅆㅇㅈㅊㅋㅌㅍㅎ".toList

def syllable (lead vowel tail : Nat) : Char :=
  Char.ofNat (firstSyllable + 588 * lead + 28 * vowel + tail)

def parts? (c : Char) : Option (Nat × Nat × Nat) :=
  let n := c.toNat - firstSyllable
  if firstSyllable ≤ c.toNat && n < syllableCount then some (n / 588, n % 588 / 28, n % 28)
  else none

def letterByte (letter : Option Char) : Nat :=
  match letter with
  | some c => 0xa1 + (c.toNat - 0x3131)
  | none => 0xd4

def spelled? (c : Char) : Option (List UInt8) :=
  (parts? c).map fun (lead, vowel, tail) =>
    let letters := [leads[lead]?, vowels[vowel]?, if tail = 0 then none else tails[tail - 1]?]
    pairBytes (0xa4, 0xd4) ++ letters.flatMap fun letter => pairBytes (0xa4, letterByte letter)

def letterNumber? (letters : List Char) (b : Nat) : Option Nat :=
  if 0xa1 ≤ b then letters.idxOf? (Char.ofNat (0x3131 + (b - 0xa1))) else none

def spelledSyllable? (lead vowel tail : Nat) : Option Char := do
  let lead ← letterNumber? leads lead
  let vowel ← letterNumber? vowels vowel
  let tail ← if tail = 0xd4 then some 0 else (letterNumber? tails tail).map (· + 1)
  return syllable lead vowel tail

def readSpelled : List UInt8 → Reading
  | 0xa4 :: 0xd4 :: rest =>
    match rest with
    | a :: lead :: b :: vowel :: c :: tail :: _ =>
      if a != 0xa4 || b != 0xa4 || c != 0xa4 then .fault 1
      else .ofChar 8 (spelledSyllable? lead.toNat vowel.toNat tail.toNat)
    | _ => .cut
  | data => readPair hanja.charAtHigh? data

def spelling : Stepwise Unit :=
  .single (fun c => ((hanja.placeOf? c).map highBytes).or (spelled? c)) readSpelled

def cellNumber? (last b : Nat) : Option Nat :=
  if b > last then none
  else if 0x41 ≤ b && b ≤ 0x5a then some (b - 0x41)
  else if 0x61 ≤ b && b ≤ 0x7a then some (b - 0x47)
  else if 0x81 ≤ b then some (b - 0x4d)
  else none

def cellByte (n : Nat) : Nat :=
  if n < 26 then n + 0x41 else if n < 52 then n + 0x47 else n + 0x4d

def lackedCount : Nat := 8822

def fullRows : Nat := 178 * 32

def lackedNumber? (a b : Nat) : Option Nat :=
  let number? : Option Nat :=
    if 0x81 ≤ a && a ≤ 0xa0 then (cellNumber? 0xfe b).map (178 * (a - 0x81) + ·)
    else if 0xa1 ≤ a && a ≤ 0xc6 then (cellNumber? 0xa0 b).map (fullRows + 84 * (a - 0xa1) + ·)
    else none
  number?.filter (· < lackedCount)

def lackedCode (n : Nat) : Nat × Nat :=
  if n < fullRows then (0x81 + n / 178, cellByte (n % 178))
  else (0xa1 + (n - fullRows) / 84, cellByte ((n - fullRows) % 84))

def pageChar? (a b : Nat) : Option Char :=
  (hanja.charAtHigh? a b).or ((lackedNumber? a b).map fun n =>
    Char.ofNat (firstSyllable + hanja.lackedAt firstSyllable n 14 0))

def pageBytes? (c : Char) : Option (List UInt8) :=
  ((hanja.placeOf? c).map highBytes).or ((parts? c).map fun _ =>
    pairBytes (lackedCode (hanja.lacked firstSyllable c.toNat)))

def page : Stepwise Unit := .single pageBytes? (readPair pageChar?)

def leadBits : List Nat := List.range' 2 19

def vowelBits : List Nat := List.range' 3 5 ++ List.range' 10 6 ++ List.range' 18 6 ++ List.range' 26 4

def tailBits : List Nat := List.range' 1 17 ++ List.range' 19 11

def partOfBits (bits : List Nat) (filler n : Nat) : Option (Option Nat) :=
  if n = filler then some none else (bits.idxOf? n).map some

def composedBytes (lead vowel tail : Nat) : List UInt8 :=
  let n := 0x8000 + 1024 * lead + 32 * vowel + tail
  pairBytes (n / 256, n % 256)

def letterBytes? (c : Char) : Option (List UInt8) :=
  if let some n := leads.idxOf? c then some (composedBytes (leadBits.getD n 0) 2 1)
  else if let some n := vowels.idxOf? c then some (composedBytes 1 (vowelBits.getD n 0) 1)
  else (tails.idxOf? c).map fun n => composedBytes 1 2 (tailBits.getD (n + 1) 0)

/-- The bytes of a place on the chart, two rows of which make one. -/
def foldedBytes? (place : Nat × Nat) : Option (List UInt8) :=
  let (row, cell) := place
  if 0x21 ≤ row && row ≤ 0x2c || 0x4a ≤ row && row ≤ 0x7d then
    let t := if row < 0x4a then row - 0x21 + 0x1b2 else row - 0x21 + 0x197
    let n := (if t % 2 = 1 then 0x5e else 0) + (cell - 0x21)
    some (pairBytes (t / 2, if n < 0x4e then n + 0x31 else n + 0x43))
  else none

def composingBytes? (c : Char) : Option (List UInt8) :=
  match parts? c with
  | some (lead, vowel, tail) =>
    some (composedBytes (leadBits.getD lead 0) (vowelBits.getD vowel 0) (tailBits.getD tail 0))
  | none => (letterBytes? c).or ((hanja.placeOf? c).bind foldedBytes?)

def composedChar? (a b : Nat) : Option Char := do
  let n := 256 * a + b
  let lead ← partOfBits leadBits 1 (n / 1024 % 32)
  let vowel ← partOfBits vowelBits 2 (n / 32 % 32)
  let tail ← partOfBits (tailBits.drop 1) 1 (n % 32)
  match lead, vowel, tail with
  | some lead, some vowel, tail => some (syllable lead vowel ((tail.map (· + 1)).getD 0))
  | some lead, none, none => leads[lead]?
  | none, some vowel, none => vowels[vowel]?
  | none, none, some tail => tails[tail]?
  | none, none, none => some '\u3000'
  | some _, none, some _ | none, some _, some _ => none

def foldedChar? (a b : Nat) : Option Char :=
  if a < 0xd9 || a == 0xdf || 0xf9 < a || b < 0x31 || 0x80 ≤ b && b < 0x91 || b % 128 == 0x7f
      || a == 0xda && 0xa1 ≤ b && b ≤ 0xd3 then none
  else
    let row := if a < 0xe0 then 2 * (a - 0xd9) else 2 * a - 0x197
    let n := if b < 0x91 then b - 0x31 else b - 0x43
    hanja.charAt? (row + n / 0x5e + 0x21) (n % 0x5e + 0x21)

def composing : Stepwise Unit :=
  .single composingBytes?
    (readPair fun a b => if a < 0xd8 then composedChar? a b else foldedChar? a b)

end Understudy.Text.Hanja
