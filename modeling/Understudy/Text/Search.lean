import Understudy.Text.Blank
import Understudy.Text.Cut

/-! Looking for a text inside another one, and what follows from where it is found: replacing and
splitting, at most so many times. -/

set_option autoImplicit false

namespace Understudy.Text

def occurrences (sub : List Char) : Nat → List Char → List Nat
  | place, [] => if sub.isEmpty then [place] else []
  | place, c :: rest =>
    (if sub.isPrefixOf (c :: rest) then [place] else []) ++ occurrences sub (place + 1) rest

/-- How many of ordered places lie at least a length apart, taken greedily. -/
def countApart (length : Nat) : Nat → List Nat → Nat
  | _, [] => 0
  | least, place :: rest =>
    if least ≤ place then countApart length (place + max length 1) rest + 1
    else countApart length least rest

def placesIn (s sub : List Char) (bounds : Nat × Nat) : List Nat :=
  (occurrences sub 0 s).filter fun place =>
    bounds.1 ≤ place && place + sub.length ≤ bounds.2

def replaceUpTo (old new : List Char) : Nat → List Char → List Char
  | 0, s => s
  | times + 1, s =>
    match cutFirst old s with
    | some (before, after) => before ++ new ++ replaceUpTo old new times after
    | none => s

/-- Put a text before the first so many characters, the end counting as one. -/
def insertUpTo (new : List Char) : Nat → List Char → List Char
  | 0, s => s
  | _ + 1, [] => new
  | times + 1, c :: rest => new ++ c :: insertUpTo new times rest

/-- Put a text for another one a number of times. An empty text stands before every character. -/
def replace (old new : List Char) (times : Nat) (s : List Char) : List Char :=
  if old.isEmpty then insertUpTo new times s else replaceUpTo old new times s

def splitUpTo (mark : List Char) : Nat → List Char → List (List Char)
  | 0, s => [s]
  | times + 1, s =>
    match cutFirst mark s with
    | some (before, after) => before :: splitUpTo mark times after
    | none => [s]

/-- The words of a text, cut a number of times; what is left keeps its blanks at the end. -/
def wordsUpTo (blank : Char → Bool) : Nat → List Char → List (List Char)
  | 0, s => flush (s.dropWhile blank).reverse []
  | times + 1, s =>
    match s.dropWhile blank with
    | [] => []
    | c :: rest =>
      (c :: rest).takeWhile (!blank ·) :: wordsUpTo blank times (rest.dropWhile (!blank ·))

def fromEnd (split : List Char → List (List Char)) (s : List Char) : List (List Char) :=
  ((split s.reverse).map List.reverse).reverse

def stripLeft (drop : Char → Bool) (s : List Char) : List Char := s.dropWhile drop

def stripRight (drop : Char → Bool) (s : List Char) : List Char :=
  (s.reverse.dropWhile drop).reverse

def isLineEnd (c : Char) : Bool :=
  inRanges [(0xa, 0xd), (0x1c, 0x1e), (0x85, 0x85), (0x2028, 0x2029)] c.toNat

def linesFrom (ends : Char → Bool) (keepEnds : Bool) :
    List Char → List Char → List (List Char)
  | run, [] => flush run []
  | run, '\r' :: '\n' :: rest =>
    (run.reverse ++ if keepEnds then ['\r', '\n'] else []) :: linesFrom ends keepEnds [] rest
  | run, c :: rest =>
    if ends c then
      (run.reverse ++ if keepEnds then [c] else []) :: linesFrom ends keepEnds [] rest
    else linesFrom ends keepEnds (c :: run) rest

/-- The lines of a text, by the characters that end them; a carriage return and a line feed are
one end. -/
def lines (ends : Char → Bool) (keepEnds : Bool) (s : List Char) : List (List Char) :=
  linesFrom ends keepEnds [] s

end Understudy.Text
