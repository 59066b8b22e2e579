import Understudy.Text.Cased

/-! The case of texts.

Letters change one by one, except that a capital sigma at the end of a word becomes the final
small sigma. A word goes on as long as its characters have a case.
-/

set_option autoImplicit false

namespace Understudy.Text

def capitalSigma : Char := 'Σ'

def meetsCased (s : List Char) : Bool := (s.dropWhile isCaseIgnorable).head?.any isCased

/-- The lower case of a character between others; those before it are given backwards. -/
def lowerBetween (before : List Char) (c : Char) (after : List Char) : List Char :=
  if c == capitalSigma && meetsCased before && !meetsCased after then ['ς'] else lowerOf c

/-- Change every character, seeing what stands before it, backwards, and after it. -/
def flatMapBetween (change : List Char → Char → List Char → List Char) :
    List Char → List Char → List Char
  | _, [] => []
  | before, c :: after => change before c after ++ flatMapBetween change (c :: before) after

def toUpper (s : List Char) : List Char := s.flatMap upperOf

def toLower (s : List Char) : List Char := flatMapBetween lowerBetween [] s

def toFolded (s : List Char) : List Char := s.flatMap foldOf

/-- Every word with a capital; a word begins after a character without a case. -/
def toTitle (s : List Char) : List Char :=
  flatMapBetween (fun before c after =>
    if before.head?.any isCased then lowerBetween before c after else titleOf c) [] s

def capitalize (s : List Char) : List Char :=
  flatMapBetween (fun before c after =>
    if before.isEmpty then titleOf c else lowerBetween before c after) [] s

/-- Capitals and small letters exchanged. -/
def swapCase (s : List Char) : List Char :=
  flatMapBetween (fun before c after =>
    if isUpperLetter c then lowerBetween before c after
    else if isLowerLetter c then upperOf c
    else [c]) [] s

def isUpperText (s : List Char) : Bool :=
  s.any isUpperLetter && !s.any fun c => isLowerLetter c || isTitleLetter c

def isLowerText (s : List Char) : Bool :=
  s.any isLowerLetter && !s.any fun c => isUpperLetter c || isTitleLetter c

/-- Whether capitals stand only at the beginning of words, and other letters only inside them. -/
def fitsTitle : Bool → List Char → Bool
  | _, [] => true
  | inWord, c :: rest =>
    if isUpperLetter c || isTitleLetter c then !inWord && fitsTitle true rest
    else if isLowerLetter c then inWord && fitsTitle true rest
    else fitsTitle false rest

def isTitleText (s : List Char) : Bool := s.any isCased && fitsTitle false s

end Understudy.Text
