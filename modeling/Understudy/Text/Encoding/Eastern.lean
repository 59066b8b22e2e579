import Understudy.Text.Chart.Traditional
import Understudy.Text.Encoding.Stepwise
import Understudy.Text.Encoding.Switched

/-! The encodings of the scripts of East Asia. -/

set_option autoImplicit false

namespace Understudy.Text.Traditional

/-! Traditional hanzi. -/

/-- The code of a character: the last one of its places on the chart. -/
def basicCode? (c : Char) : Option (Nat × Nat) := (traditional.placesOf c).getLast?

def basic : Stepwise Unit :=
  .single (fun c => (basicCode? c).map pairBytes) (readPair traditional.charAt?)

/-- The code of a character in the code page: a place that it leaves as it is on the chart comes
before its own ones. -/
def pageCode? (c : Char) : Option (Nat × Nat) :=
  let kept := (traditional.placesOf c).filter fun (row, cell) =>
    (traditionalPage.charAt? row cell).isNone
  kept.getLast?.or ((traditionalPage.placeOf? c).or (basicCode? c))

def page : Stepwise Unit :=
  .single (fun c => (pageCode? c).map pairBytes)
    (readPair fun a b => (traditionalPage.charAt? a b).or (traditional.charAt? a b))

def markedLetters : List ((Char × Char) × Nat × Nat) :=
  [(('\u00ca', '\u0304'), 0x88, 0x62), (('\u00ca', '\u030c'), 0x88, 0x64),
   (('\u00ea', '\u0304'), 0x88, 0xa3), (('\u00ea', '\u030c'), 0x88, 0xa5)]

def writeHongKong : List Char → Option (List UInt8 × Nat)
  | [] => none
  | c :: rest =>
    let marked := rest.head?.bind fun mark => markedLetters.find? (·.1 == (c, mark))
    match marked with
    | some (_, place) => some (pairBytes place, 2)
    | none =>
      ((hongKong.placeOf? c).or (basicCode? c)).map fun place => (pairBytes place, 1)

def isSuppliedOnly (a b : Nat) : Bool := 0xc6 ≤ a && a ≤ 0xc8 && (0xc7 ≤ a || 0xa1 ≤ b)

def readHongKong : List UInt8 → Reading
  | a :: b :: _ =>
    let (a, b) := (a.toNat, b.toNat)
    match markedLetters.find? fun (_, row, cell) => row == a && cell == b with
    | some ((c, mark), _) => .chars [c, mark] 2
    | none =>
      let older := if isSuppliedOnly a b then none else traditional.charAt? a b
      .ofChar 2 (older.or (hongKong.charAt? a b))
  | _ => .cut

def supplemented : Stepwise Unit := .plain writeHongKong readHongKong

end Understudy.Text.Traditional

namespace Understudy.Text

/-! All of them. -/

inductive Eastern where
  | narrowHanzi
  | wideHanzi
  | fullHanzi
  | hanziRuns
  | traditional
  | traditionalPage
  | hongKong
  | shiftKanji
  | kanjiPage
  | highKanji
  | shiftExtended (e : Kanji.Edition)
  | highExtended (e : Kanji.Edition)
  | spelledHanja
  | hanjaPage
  | composedHanja
  | switched (k : Switching)
  deriving DecidableEq, Repr

namespace Eastern

def names : List (Eastern × String × List String) :=
  [(.narrowHanzi, "gb2312", ["chinese", "csiso58gb231280", "euc_cn", "euccn", "eucgb2312_cn",
     "gb2312_1980", "gb2312_80", "iso_ir_58", "x_mac_simp_chinese"]),
   (.wideHanzi, "gbk", ["936", "cp936", "ms936"]),
   (.fullHanzi, "gb18030", ["gb18030_2000"]),
   (.hanziRuns, "hz", ["hz_gb", "hz_gb_2312", "hzgb"]),
   (.traditional, "big5", ["big5_tw", "csbig5", "x_mac_trad_chinese"]),
   (.traditionalPage, "cp950", ["950", "ms950"]),
   (.hongKong, "big5hkscs", ["big5_hkscs", "hkscs"]),
   (.shiftKanji, "shift_jis", ["csshiftjis", "s_jis", "shiftjis", "sjis", "x_mac_japanese"]),
   (.kanjiPage, "cp932", ["932", "ms932", "ms_kanji", "mskanji"]),
   (.highKanji, "euc_jp", ["eucjp", "u_jis", "ujis"]),
   (.shiftExtended .later, "shift_jis_2004", ["s_jis_2004", "shiftjis2004", "sjis_2004"]),
   (.shiftExtended .earlier, "shift_jisx0213", ["s_jisx0213", "shiftjisx0213", "sjisx0213"]),
   (.highExtended .later, "euc_jis_2004", ["euc_jis2004", "eucjis2004", "jisx0213"]),
   (.highExtended .earlier, "euc_jisx0213", ["eucjisx0213"]),
   (.spelledHanja, "euc_kr", ["euckr", "korean", "ks_c_5601", "ks_c_5601_1987", "ks_x_1001",
     "ksc5601", "ksx1001", "x_mac_korean"]),
   (.hanjaPage, "cp949", ["949", "ms949", "uhc"]),
   (.composedHanja, "johab", ["cp1361", "ms1361"]),
   (.switched .japanese, "iso2022_jp", ["csiso2022jp", "iso2022jp", "iso_2022_jp"]),
   (.switched .japaneseOne, "iso2022_jp_1", ["iso2022jp_1", "iso_2022_jp_1"]),
   (.switched .japaneseTwo, "iso2022_jp_2", ["iso2022jp_2", "iso_2022_jp_2"]),
   (.switched (.japaneseExtended .later), "iso2022_jp_2004", ["iso2022jp_2004",
     "iso_2022_jp_2004"]),
   (.switched (.japaneseExtended .earlier), "iso2022_jp_3", ["iso2022jp_3", "iso_2022_jp_3"]),
   (.switched .japaneseHalf, "iso2022_jp_ext", ["iso2022jp_ext", "iso_2022_jp_ext"]),
   (.switched .korean, "iso2022_kr", ["csiso2022kr", "iso2022kr", "iso_2022_kr"])]

def withSteps {α : Type} (e : Eastern) (use : {σ : Type} → Stepwise σ → α) : α :=
  match e with
  | .narrowHanzi => use Hanzi.narrow
  | .wideHanzi => use Hanzi.wide
  | .fullHanzi => use Hanzi.full
  | .hanziRuns => use Hanzi.runsOfSeven
  | .traditional => use Traditional.basic
  | .traditionalPage => use Traditional.page
  | .hongKong => use Traditional.supplemented
  | .shiftKanji => use Kanji.shift
  | .kanjiPage => use Kanji.page
  | .highKanji => use Kanji.high
  | .shiftExtended e => use e.shift
  | .highExtended e => use e.high
  | .spelledHanja => use Hanja.spelling
  | .hanjaPage => use Hanja.page
  | .composedHanja => use Hanja.composing
  | .switched k => use k.stepwise

def encode (e : Eastern) (way : String) (s : List Char) : Except Slip (List UInt8) :=
  e.withSteps fun steps => steps.encode way s

def decode (e : Eastern) (way : String) (data : List UInt8) : Except Slip (List Char) :=
  e.withSteps fun steps => steps.decode way data

end Eastern

end Understudy.Text
