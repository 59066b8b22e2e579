import Understudy.Text.Encoding.Hanja
import Understudy.Text.Encoding.Hanzi
import Understudy.Text.Encoding.Kanji

/-! Seven-bit encodings that switch between sets of characters.

An escape puts a set into one of three places. The first place is in use unless it is shifted out,
and then the second one; a single character may be taken from the third.
-/

set_option autoImplicit false

namespace Understudy.Text

inductive CharSet where
  | ascii
  | roman
  | half
  | kanji
  | oldKanji
  | kanjiSupplement
  | firstPlane (e : Kanji.Edition)
  | secondPlane (e : Kanji.Edition)
  | hanzi
  | hanja
  | latin
  | greek
  deriving DecidableEq, Repr

namespace CharSet

def mark : CharSet → Char × Bool
  | .ascii => ('B', false)
  | .roman => ('J', false)
  | .half => ('I', false)
  | .kanji => ('B', true)
  | .oldKanji => ('@', true)
  | .kanjiSupplement => ('D', true)
  | .firstPlane .earlier => ('O', true)
  | .firstPlane .later => ('Q', true)
  | .secondPlane _ => ('P', true)
  | .hanzi => ('A', true)
  | .hanja => ('C', true)
  | .latin => ('A', false)
  | .greek => ('F', false)

def write? (s : CharSet) (text : List Char) : Option (List UInt8 × Nat) :=
  let single (code : Option (Nat × Nat)) : Option (List UInt8 × Nat) :=
    code.map fun place => (pairBytes place, 1)
  match s, text with
  | .roman, c :: _ => (Kanji.romanByte? c).map fun n => (Kanji.oneByte n, 1)
  | .half, c :: _ => (Kanji.halfByte? c).map fun n => (Kanji.oneByte (n - 0x80), 1)
  | .kanji, c :: _ => single (Text.kanji.placeOf? c)
  | .kanjiSupplement, c :: _ => single (Text.kanjiSupplement.placeOf? c)
  | .hanzi, c :: _ => single (Text.hanzi.placeOf? c)
  | .hanja, c :: _ => single (Text.hanja.placeOf? c)
  | .firstPlane e, text =>
    match e.place? text with
    | some (true, place, count) => some (pairBytes place, count)
    | _ => none
  | .secondPlane e, text =>
    match e.place? text with
    | some (false, place, count) => some (pairBytes place, count)
    | _ => none
  | _, _ => none

def meaning? (s : CharSet) (a b : Nat) : Option (List Char) :=
  let one (c : Option Char) : Option (List Char) := c.map ([·])
  match s with
  | .ascii => some [Char.ofNat a]
  | .roman =>
    some [if a = 0x5c then '\u00a5' else if a = 0x7e then '\u203e' else Char.ofNat a]
  | .half => one (Kanji.halfChar? (a + 0x80))
  | .kanji | .oldKanji => one (Text.kanji.charAt? a b)
  | .kanjiSupplement => one (Text.kanjiSupplement.charAt? a b)
  | .firstPlane e => e.firstPlane? a b
  | .secondPlane e => e.secondPlane? a b
  | .hanzi => one (Text.hanzi.charAt? a b)
  | .hanja => one (Text.hanja.charAt? a b)
  | .latin | .greek => none

end CharSet

/-- What is switched on. -/
structure Switched where
  first : CharSet
  second : CharSet
  third : CharSet
  out : Bool
  passing : Bool
  deriving DecidableEq, Repr

def Switched.start : Switched := ⟨.ascii, .ascii, .ascii, false, false⟩

/-- An encoding by the sets that it can switch on, in the order in which they are tried. -/
structure Switching where
  sets : List CharSet
  shifts : Bool
  third : Bool
  announces : Bool
  deriving DecidableEq, Repr

namespace Switching

def escape : UInt8 := 0x1b

def shiftOut : UInt8 := 0x0e

def shiftIn : UInt8 := 0x0f

def ofText (s : String) : List UInt8 := s.toList.map fun c => UInt8.ofNat c.toNat

variable (k : Switching)

def escapeFor (s : CharSet) : List UInt8 :=
  let (letter, pairs) := s.mark
  let place := if k.shifts then ')' else '('
  let marks :=
    if !pairs then [place]
    else if s == .kanji then ['$']
    else ['$', place]
  escape :: ofText (String.ofList (marks ++ [letter]))

def switchTo (s : CharSet) (now : Switched) : List UInt8 × Switched :=
  if k.shifts then
    let escaped := if now.second == s then [] else k.escapeFor s
    (escaped ++ (if now.out then [] else [shiftOut]), { now with second := s, out := true })
  else (if now.first == s then [] else k.escapeFor s, { now with first := s })

def backToAscii (now : Switched) : List UInt8 × Switched :=
  ((if now.first == .ascii then [] else escape :: ofText "(B")
    ++ (if now.out then [shiftIn] else []), { now with first := .ascii, out := false })

/-- The first plane of the extended set, if there is one: pairs of characters are tried there
before all else. -/
def pairSet? (text : List Char) : Option (CharSet × List UInt8 × Nat) :=
  k.sets.findSome? fun s =>
    match s with
    | .firstPlane _ =>
      (s.write? text).bind fun (bytes, count) => if count = 2 then some (s, bytes, 2) else none
    | _ => none

def write (now : Switched) (text : List Char) : Option (List UInt8 × Nat × Switched) := do
  let c ← text.head?
  if c.toNat < 0x80 then
    let (bytes, now) := backToAscii now
    return (bytes ++ [UInt8.ofNat c.toNat], 1, now)
  else
    let (s, bytes, count) ←
      (k.pairSet? text).or (k.sets.findSome? fun s =>
        (s.write? text).map fun (bytes, count) => (s, bytes, count))
    let (switch, now) := k.switchTo s now
    return (switch ++ bytes, count, now)

def close (now : Switched) : List UInt8 :=
  (if now.out then [shiftIn] else [])
    ++ (if now.first == .ascii then [] else escape :: ofText "(B")

def endsEscape (b : UInt8) : Bool := 0x40 ≤ b.toNat && b.toNat ≤ 0x5a

/-- The length of an escape, looked for from a place on: nothing if the bytes end before it does,
and zero if it has no end. -/
def escapeLength? (data : List UInt8) : Nat → Nat → Option Nat
  | 0, _ => some 0
  | fuel + 1, place =>
    if 16 ≤ place then some 0
    else
      match data[place]? with
      | none => none
      | some b =>
        if endsEscape b then some (place + 1)
        else if k.announces && (data.drop place).take 2 == ofText "&@" then
          escapeLength? data fuel (place + 3)
        else escapeLength? data fuel (place + 1)

def setOf? (letter : UInt8) (pairs : Bool) : Option CharSet :=
  (.ascii :: k.sets).find? fun s =>
    s.mark == (Char.ofNat letter.toNat, pairs)

def designation? (marks : List UInt8) : Option (CharSet × Nat) :=
  let placed (s : Option CharSet) (place : UInt8) : Option (CharSet × Nat) :=
    if place == 0x28 then s.map (·, 0)
    else if place == 0x29 then s.map (·, 1)
    else if k.third && place == 0x2e then s.map (·, 2)
    else none
  match marks with
  | [0x24, letter] => (k.setOf? letter true).map (·, 0)
  | [place, letter] => placed (k.setOf? letter false) place
  | [0x24, place, letter] =>
    if place == 0x2e then none else placed (k.setOf? letter true) place
  | marks =>
    if k.announces && marks == ofText "&@" ++ [escape] ++ ofText "$B" then
      (k.setOf? 0x42 true).map (·, 0)
    else none

def put (s : CharSet) (place : Nat) (now : Switched) : Switched :=
  if place = 0 then { now with first := s }
  else if place = 1 then { now with second := s }
  else { now with third := s }

def readDesignation (now : Switched) (data : List UInt8) : Reading × Switched :=
  match k.escapeLength? data 16 1 with
  | none => (.cut, now)
  | some 0 => (.fault 1, now)
  | some length =>
    match k.designation? ((data.take length).drop 1) with
    | some (s, place) => (.chars [] length, put s place now)
    | none => (.fault length, now)

def thirdChar? (s : CharSet) (b : Nat) : Option Char :=
  match s with
  | .latin => if b < 0x80 then some (Char.ofNat (b + 0x80)) else none
  | .greek => greekChar? (if b < 0x80 then b + 0x80 else b - 0x80)
  | _ => if b < 0x80 then some (Char.ofNat b) else none
where
  greekChar? (n : Nat) : Option Char :=
    if n < 0xa0 || [0xa0, 0xa3, 0xa6, 0xa7, 0xa8, 0xa9, 0xab, 0xac, 0xad, 0xb0, 0xb1, 0xb2, 0xb3,
        0xb7, 0xbb, 0xbd].contains n then some (Char.ofNat n)
    else if 0xb4 ≤ n && n ≤ 0xfe && n != 0xd2 then some (Char.ofNat (n + 0x2d0))
    else if n = 0xa1 then some '\u2018'
    else if n = 0xa2 then some '\u2019'
    else if n = 0xaf then some '\u2015'
    else none

def readEscape (now : Switched) (data : List UInt8) : Reading × Switched :=
  match data with
  | _ :: b :: rest =>
    if [0x28, 0x29, 0x24, 0x2e, 0x26].contains b then k.readDesignation now data
    else if k.third && b == 0x4e then
      match rest with
      | [] => (.cut, now)
      | c :: _ =>
        match thirdChar? now.third c.toNat with
        | some c => (.chars [c] 3, now)
        | none => (.fault 3, now)
    else (.chars ['\x1b'] 1, { now with passing := true })
  | _ => (.cut, now)

def readChar (now : Switched) (a : UInt8) (rest : List UInt8) : Reading :=
  let s := if now.out then now.second else now.first
  let taken := if s.mark.2 then 2 else 1
  let meant (b : Nat) : Reading :=
    match s.meaning? a.toNat b with
    | some text => .chars text taken
    | none => .fault taken
  match rest, taken with
  | b :: _, _ => meant b.toNat
  | [], 1 => meant 0
  | [], _ => .cut

def read (now : Switched) (data : List UInt8) : Reading × Switched :=
  match data with
  | [] => (.cut, now)
  | a :: rest =>
    let alone : Reading := .chars [Char.ofNat a.toNat] 1
    if now.passing then (alone, { now with passing := !endsEscape a })
    else if a == escape then k.readEscape now data
    else if k.shifts && a == shiftIn then (.chars [] 1, { now with out := false })
    else if k.shifts && a == shiftOut then (.chars [] 1, { now with out := true })
    else if a == 0x0a then (alone, { now with out := false })
    else if a.toNat < 0x20 then (alone, now)
    else if 0x80 ≤ a.toNat then (.fault 1, now)
    else (readChar now a rest, now)

def stepwise : Stepwise Switched where
  start := .start
  write := k.write
  close := close
  read := k.read

def ofKanji (sets : List CharSet) : Switching := ⟨sets, false, false, true⟩

def japanese : Switching := ofKanji [.kanji, .roman, .oldKanji]

def japaneseOne : Switching := ofKanji [.kanji, .kanjiSupplement, .roman, .oldKanji]

def japaneseTwo : Switching :=
  ⟨[.kanji, .kanjiSupplement, .hanja, .hanzi, .roman, .oldKanji, .latin, .greek], false, true,
    true⟩

def japaneseExtended (e : Kanji.Edition) : Switching :=
  ofKanji [.kanji, .firstPlane e, .secondPlane e]

def japaneseHalf : Switching :=
  ofKanji [.kanji, .kanjiSupplement, .roman, .half, .oldKanji]

def korean : Switching := ⟨[.hanja], true, false, false⟩

end Switching
end Understudy.Text
