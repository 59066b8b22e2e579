import Understudy.Text.Chart.Hanzi
import Understudy.Text.Encoding.Stepwise

/-! Encodings of simplified hanzi.

The smallest set is a chart. The wide set adds signs, and all ideographs that the chart lacks in
their order. The full set fills the cells that are left, gives three areas to private use, and
writes all other characters with four bytes.
-/

set_option autoImplicit false

namespace Understudy.Text.Hanzi

def narrow : Stepwise Unit :=
  .single (fun c => (hanzi.placeOf? c).map highBytes) (readPair hanzi.charAtHigh?)

def firstIdeograph : Nat := 0x4e00

def ideographCount : Nat := 20902

def lackedCount : Nat := 14139

def secondArea : Nat := 6080

def cellNumber? (last b : Nat) : Option Nat :=
  if 0x40 ≤ b && b ≤ last && b != 0x7f then some (if b < 0x7f then b - 0x40 else b - 0x41)
  else none

def cellByte (n : Nat) : Nat := if n < 0x3f then n + 0x40 else n + 0x41

def lackedNumber? (a b : Nat) : Option Nat :=
  let number? : Option Nat :=
    if 0x81 ≤ a && a ≤ 0xa0 then (cellNumber? 0xfe b).map (190 * (a - 0x81) + ·)
    else if 0xaa ≤ a && a ≤ 0xfe then
      (cellNumber? 0xa0 b).map (secondArea + 96 * (a - 0xaa) + ·)
    else none
  number?.filter (· < lackedCount)

def lackedCode (n : Nat) : Nat × Nat :=
  if n < secondArea then (0x81 + n / 190, cellByte (n % 190))
  else (0xaa + (n - secondArea) / 96, cellByte ((n - secondArea) % 96))

def lackedChar? (a b : Nat) : Option Char :=
  (lackedNumber? a b).map fun n =>
    Char.ofNat (firstIdeograph + hanzi.lackedAt firstIdeograph n 15 0)

def moved : List (Char × Nat × Nat) :=
  [('\u2014', 0xa1, 0xaa), ('\u2015', 0xa8, 0x44), ('\u00b7', 0xa1, 0xa4)]

def wideChar? (a b : Nat) : Option Char :=
  ((moved.find? fun (_, row, cell) => row == a && cell == b).map (·.1)).or
    ((hanzi.charAtHigh? a b).or ((hanziSigns.charAt? a b).or (lackedChar? a b)))

def wideCode? (c : Char) : Option (Nat × Nat) :=
  if let some (_, place) := moved.find? (·.1 == c) then some place
  else if c == '\u30fb' then none
  else if let some (row, cell) := hanzi.placeOf? c then some (row + 0x80, cell + 0x80)
  else if let some place := hanziSigns.placeOf? c then some place
  else if firstIdeograph ≤ c.toNat && c.toNat < firstIdeograph + ideographCount then
    some (lackedCode (hanzi.lacked firstIdeograph c.toNat))
  else none

def wide : Stepwise Unit := .single (fun c => (wideCode? c).map pairBytes) (readPair wideChar?)

/-- The areas for private use: the first and the last row, the first cell, the number of cells in
a row, and the first character. -/
def privateAreas : List (Nat × Nat × Nat × Nat × Nat) :=
  [(0xaa, 0xaf, 0xa1, 94, 0xe000), (0xf8, 0xfe, 0xa1, 94, 0xe234), (0xa1, 0xa7, 0x40, 96, 0xe4c6)]

def privateCell? (start cells b : Nat) : Option Nat :=
  (if start == 0x40 then cellNumber? 0xa0 b else if start ≤ b then some (b - start) else none).filter
    (· < cells)

def privateChar? (a b : Nat) : Option Char :=
  privateAreas.findSome? fun (first, last, start, cells, char) =>
    if first ≤ a && a ≤ last then
      (privateCell? start cells b).map fun n => Char.ofNat (char + cells * (a - first) + n)
    else none

def privateCode? (c : Char) : Option (Nat × Nat) :=
  privateAreas.findSome? fun (first, last, start, cells, char) =>
    let n := c.toNat - char
    if char ≤ c.toNat && n < cells * (last + 1 - first) then
      let cell := n % cells
      some (first + n / cells, if start == 0x40 then cellByte cell else start + cell)
    else none

def fourByteChars : List (Nat × Nat) :=
  [(0x80, 0xa3), (0xa5, 0xa6), (0xa9, 0xaf), (0xb2, 0xb6), (0xb8, 0xd6), (0xd8, 0xdf),
   (0xe2, 0xe7), (0xeb, 0xeb), (0xee, 0xf1), (0xf4, 0xf6), (0xf8, 0xf8), (0xfb, 0xfb),
   (0xfd, 0x100), (0x102, 0x112), (0x114, 0x11a), (0x11c, 0x12a), (0x12c, 0x143), (0x145, 0x147),
   (0x149, 0x14c), (0x14e, 0x16a), (0x16c, 0x1cd), (0x1cf, 0x1cf), (0x1d1, 0x1d1), (0x1d3, 0x1d3),
   (0x1d5, 0x1d5), (0x1d7, 0x1d7), (0x1d9, 0x1d9), (0x1db, 0x1db), (0x1dd, 0x1f8), (0x1fa, 0x250),
   (0x252, 0x260), (0x262, 0x2c6), (0x2c8, 0x2c8), (0x2cc, 0x2d8), (0x2da, 0x390), (0x3a2, 0x3a2),
   (0x3aa, 0x3b0), (0x3c2, 0x3c2), (0x3ca, 0x400), (0x402, 0x40f), (0x450, 0x450), (0x452, 0x200f),
   (0x2011, 0x2012), (0x2017, 0x2017), (0x201a, 0x201b), (0x201e, 0x2024), (0x2027, 0x202f),
   (0x2031, 0x2031), (0x2034, 0x2034), (0x2036, 0x203a), (0x203c, 0x20ab), (0x20ad, 0x2102),
   (0x2104, 0x2104), (0x2106, 0x2108), (0x210a, 0x2115), (0x2117, 0x2120), (0x2122, 0x215f),
   (0x216c, 0x216f), (0x217a, 0x218f), (0x2194, 0x2195), (0x219a, 0x2207), (0x2209, 0x220e),
   (0x2210, 0x2210), (0x2212, 0x2214), (0x2216, 0x2219), (0x221b, 0x221c), (0x2221, 0x2222),
   (0x2224, 0x2224), (0x2226, 0x2226), (0x222c, 0x222d), (0x222f, 0x2233), (0x2238, 0x223c),
   (0x223e, 0x2247), (0x2249, 0x224b), (0x224d, 0x2251), (0x2253, 0x225f), (0x2262, 0x2263),
   (0x2268, 0x226d), (0x2270, 0x2294), (0x2296, 0x2298), (0x229a, 0x22a4), (0x22a6, 0x22be),
   (0x22c0, 0x2311), (0x2313, 0x245f), (0x246a, 0x2473), (0x249c, 0x24ff), (0x254c, 0x254f),
   (0x2574, 0x2580), (0x2590, 0x2592), (0x2596, 0x259f), (0x25a2, 0x25b1), (0x25b4, 0x25bb),
   (0x25be, 0x25c5), (0x25c8, 0x25ca), (0x25cc, 0x25cd), (0x25d0, 0x25e1), (0x25e6, 0x2604),
   (0x2607, 0x2608), (0x260a, 0x263f), (0x2641, 0x2641), (0x2643, 0x2e80), (0x2e82, 0x2e83),
   (0x2e85, 0x2e87), (0x2e89, 0x2e8a), (0x2e8d, 0x2e96), (0x2e98, 0x2ea6), (0x2ea8, 0x2ea9),
   (0x2eab, 0x2ead), (0x2eaf, 0x2eb2), (0x2eb4, 0x2eb5), (0x2eb8, 0x2eba), (0x2ebc, 0x2ec9),
   (0x2ecb, 0x2fef), (0x2ffc, 0x2fff), (0x3004, 0x3004), (0x3018, 0x301c), (0x301f, 0x3020),
   (0x302a, 0x303d), (0x303f, 0x3040), (0x3094, 0x309a), (0x309f, 0x30a0), (0x30f7, 0x30fb),
   (0x30ff, 0x3104), (0x312a, 0x321f), (0x322a, 0x3230), (0x3232, 0x32a2), (0x32a4, 0x338d),
   (0x3390, 0x339b), (0x339f, 0x33a0), (0x33a2, 0x33c3), (0x33c5, 0x33cd), (0x33cf, 0x33d0),
   (0x33d3, 0x33d4), (0x33d6, 0x3446), (0x3448, 0x3472), (0x3474, 0x359d), (0x359f, 0x360d),
   (0x360f, 0x3619), (0x361b, 0x3917), (0x3919, 0x396d), (0x396f, 0x39ce), (0x39d1, 0x39de),
   (0x39e0, 0x3a72), (0x3a74, 0x3b4d), (0x3b4f, 0x3c6d), (0x3c6f, 0x3cdf), (0x3ce1, 0x4055),
   (0x4057, 0x415e), (0x4160, 0x4336), (0x4338, 0x43ab), (0x43ad, 0x43b0), (0x43b2, 0x43dc),
   (0x43de, 0x44d5), (0x44d7, 0x464b), (0x464d, 0x4660), (0x4662, 0x4722), (0x4724, 0x4728),
   (0x472a, 0x477b), (0x477d, 0x478c), (0x478e, 0x4946), (0x4948, 0x4979), (0x497b, 0x497c),
   (0x497e, 0x4981), (0x4984, 0x4984), (0x4987, 0x499a), (0x499c, 0x499e), (0x49a0, 0x49b5),
   (0x49b8, 0x4c76), (0x4c78, 0x4c9e), (0x4ca4, 0x4d12), (0x4d1a, 0x4dad), (0x4daf, 0x4dff),
   (0x9fa6, 0xd7ff), (0xe76c, 0xe76c), (0xe7c8, 0xe7c8), (0xe7e7, 0xe7f3), (0xe815, 0xe815),
   (0xe819, 0xe81d), (0xe81f, 0xe825), (0xe827, 0xe82a), (0xe82d, 0xe830), (0xe833, 0xe83a),
   (0xe83c, 0xe842), (0xe844, 0xe853), (0xe856, 0xe863), (0xe865, 0xf92b), (0xf92d, 0xf978),
   (0xf97a, 0xf994), (0xf996, 0xf9e6), (0xf9e8, 0xf9f0), (0xf9f2, 0xfa0b), (0xfa10, 0xfa10),
   (0xfa12, 0xfa12), (0xfa15, 0xfa17), (0xfa19, 0xfa1e), (0xfa22, 0xfa22), (0xfa25, 0xfa26),
   (0xfa2a, 0xfe2f), (0xfe32, 0xfe32), (0xfe45, 0xfe48), (0xfe53, 0xfe53), (0xfe58, 0xfe58),
   (0xfe67, 0xfe67), (0xfe6c, 0xff00), (0xff5f, 0xffdf), (0xffe6, 0xffff)]
def fourByteNumber? : List (Nat × Nat) → Nat → Option Nat
  | [], _ => none
  | (first, last) :: rest, n =>
    if n < first then none
    else if n ≤ last then some (n - first)
    else (fourByteNumber? rest n).map (last + 1 - first + ·)

def fourByteChar? : List (Nat × Nat) → Nat → Option Nat
  | [], _ => none
  | (first, last) :: rest, n =>
    if n < last + 1 - first then some (first + n) else fourByteChar? rest (n - (last + 1 - first))

def fourBytes (lead n : Nat) : List UInt8 :=
  [lead + n / 12600, 0x30 + n / 1260 % 10, 0x81 + n / 10 % 126, 0x30 + n % 10].map UInt8.ofNat

def fullBytes? (c : Char) : Option (List UInt8) :=
  let n := c.toNat
  if 0x10000 ≤ n then some (fourBytes 0x90 (n - 0x10000))
  else
    ((wideCode? c).or ((hanziLater.placeOf? c).or (privateCode? c))).map pairBytes |>.or
      ((fourByteNumber? fourByteChars n).map (fourBytes 0x81))

def fourByteMeaning? (a b c d : Nat) : Option Char :=
  let within (first last n : Nat) : Bool := first ≤ n && n ≤ last
  if !(within 0x81 0xfe a && within 0x81 0xfe c && within 0x30 0x39 d) then none
  else
    let n := 1260 * (10 * (a - 0x81) + (b - 0x30)) + 10 * (c - 0x81) + (d - 0x30)
    if a < 0x85 then (fourByteChar? fourByteChars n).map Char.ofNat
    else if a < 0x90 then none
    else
      let n := 0x10000 + n - 12600 * 15
      if n ≤ 0x10ffff then some (Char.ofNat n) else none

def fullChar? (a b : Nat) : Option Char :=
  (wideChar? a b).or ((hanziLater.charAt? a b).or (privateChar? a b))

def readFull : List UInt8 → Reading
  | a :: b :: rest =>
    if 0x30 ≤ b.toNat && b.toNat ≤ 0x39 then
      match rest with
      | c :: d :: _ => .ofChar 4 (fourByteMeaning? a.toNat b.toNat c.toNat d.toNat)
      | _ => .cut
    else .ofChar 2 (fullChar? a.toNat b.toNat)
  | _ => .cut

def full : Stepwise Unit := .single fullBytes? readFull

def writeRuns (open_ : Bool) : List Char → Option (List UInt8 × Nat × Bool)
  | [] => none
  | c :: _ =>
    if c.toNat < 0x80 then
      let closing := if open_ then "~\x7d" else ""
      let text := if c == '~' then ['~', '~'] else [c]
      some ((closing.toList ++ text).map fun c => UInt8.ofNat c.toNat, 1, false)
    else
      (hanzi.placeOf? c).map fun place =>
        ((if open_ then [] else [0x7e, 0x7b]) ++ pairBytes place, 1, true)

def readRuns (open_ : Bool) : List UInt8 → Reading × Bool
  | [] => (.cut, open_)
  | 0x7e :: rest =>
    match rest, open_ with
    | [], _ => (.cut, open_)
    | 0x7e :: _, false => (.chars ['~'] 2, false)
    | 0x7b :: _, false => (.chars [] 2, true)
    | 0x0a :: _, false => (.chars [] 2, false)
    | 0x7d :: _, true => (.chars [] 2, false)
    | _, _ => (.fault 1, open_)
  | a :: rest =>
    if 0x80 ≤ a.toNat then (.fault 1, open_)
    else if !open_ then (.chars [Char.ofNat a.toNat] 1, open_)
    else
      match rest with
      | [] => (.cut, open_)
      | b :: _ => (.ofChar 2 (hanzi.charAt? a.toNat b.toNat), open_)

def runsOfSeven : Stepwise Bool where
  start := false
  write := writeRuns
  close := fun open_ => if open_ then [0x7e, 0x7d] else []
  read := readRuns

end Understudy.Text.Hanzi
