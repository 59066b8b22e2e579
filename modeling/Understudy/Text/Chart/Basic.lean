/-! Charts of characters by their places.

A place is a pair of numbers: a row and a cell. Some sets of characters are a chart together with
all characters of a block that the chart lacks, in their order.
-/

set_option autoImplicit false

namespace Understudy.Text

/-- Runs of cells: their row, the first cell, and their characters; U+FFFE is none. -/
abbrev Chart := List (Nat × Nat × String)

namespace Chart

def charAt? (chart : Chart) (row cell : Nat) : Option Char :=
  chart.findSome? fun (other, start, chars) =>
    if other == row && start ≤ cell then
      (chars.toList[cell - start]?).filter (· != '\ufffe')
    else none

def placeOf? (chart : Chart) (c : Char) : Option (Nat × Nat) :=
  if c == '\ufffe' then none
  else
    chart.findSome? fun (row, start, chars) =>
      (chars.toList.idxOf? c).map fun n => (row, start + n)

def placesOf (chart : Chart) (c : Char) : List (Nat × Nat) :=
  chart.flatMap fun (row, start, chars) =>
    chars.toList.zipIdx.filterMap fun (other, n) => if other == c then some (row, start + n) else none

def lacked (chart : Chart) (first last : Nat) : Nat :=
  chart.foldl (fun left (_, _, chars) =>
    left - chars.toList.countP fun c => first ≤ c.toNat && c.toNat < last) (last - first)

/-- The character from a first one on before which a chart lacks so many; the search goes through
the bits of its distance. -/
def lackedAt (chart : Chart) (first count : Nat) : Nat → Nat → Nat
  | 0, found => found
  | bits + 1, found =>
    let further := found + Nat.pow 2 bits
    lackedAt chart first count bits
      (if chart.lacked first (first + further) ≤ count then further else found)

end Chart
end Understudy.Text
