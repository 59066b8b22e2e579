import Understudy.Sorting.Merge

/-! Sorting a list by its runs.

The list is cut into runs that rise, falling ones being turned round, and short ones being filled
up by inserting the items behind them one by one. Runs wait on a stack until it pays to merge them.
Equal items keep their order. Where a comparison is refused, sorting stops, and the items stay as
they are.
-/

set_option autoImplicit false

namespace Understudy.Sorting

variable {α ε : Type} (less : α → α → Except ε Bool)

def runOn (falling : Bool) : α → List α → Except ε Nat
  | _, [] => .ok 0
  | x, y :: rest => do
    if (← less y x) == falling then return (← runOn falling y rest) + 1 else return 0

def leadingRun : List α → Except ε (List α × Nat)
  | x :: y :: rest => do
    let falling ← less y x
    let length := (← runOn less falling y rest) + 2
    let items := x :: y :: rest
    return (if falling then (items.take length).reverse ++ items.drop length else items, length)
  | items => .ok (items, items.length)

/-- Insert items into rising ones; what stops it leaves the items that are not inserted behind. -/
def insertAll (sorted : List α) : List α → List α × Option ε
  | [] => (sorted, none)
  | x :: rest =>
    match placeWithin (notAfter less x) sorted.toArray 0 sorted.length with
    | .ok place => insertAll (sorted.take place ++ x :: sorted.drop place) rest
    | .error e => (sorted ++ x :: rest, some e)

/-- The least length of a run, for a list of a length: less than 64, and rounded up if bits were
lost. -/
def leastRun (lost : Nat) (length : Nat) : Nat :=
  if length < 64 then length + lost
  else leastRun (if length % 2 = 1 then 1 else lost) (length / 2)
termination_by length

/-- The run at the beginning of a list, filled up to a length if it is shorter, and the rest. What
stops it leaves the list as it is by then. -/
def nextRun (least : Nat) (items : List α) : Except (List α × ε) (List α × List α) :=
  match leadingRun less items with
  | .error e => .error (items, e)
  | .ok (items, length) =>
    let filled := max length (min least items.length)
    match insertAll less (items.take length) ((items.take filled).drop length) with
    | (run, none) => .ok (run, items.drop filled)
    | (run, some e) => .error (run ++ items.drop filled, e)

/-- Runs that wait to be merged, the last one first, each with the depth of its seam with the one
behind it. -/
structure Stack (α : Type) where
  runs : List (Nat × List α)
  many : Nat

namespace Stack

def empty : Stack α := ⟨[], worthLeaping⟩

def items (s : Stack α) : List α := (s.runs.map (·.2)).reverse.flatten

def mergeLast (s : Stack α) : Stack α × Option ε :=
  match s.runs with
  | (_, b) :: (depth, a) :: rest =>
    let m := mergeRuns less s.many a b
    (⟨(depth, m.items) :: rest, m.many⟩, m.stopped)
  | _ => (s, none)

def mergeBefore (s : Stack α) : Stack α × Option ε :=
  match s.runs with
  | c :: (_, b) :: (depth, a) :: rest =>
    let m := mergeRuns less s.many a b
    (⟨c :: (depth, m.items) :: rest, m.many⟩, m.stopped)
  | _ => (s, none)

def mergeDeeper (depth : Nat) : Nat → Stack α → Stack α × Option ε
  | 0, s => (s, none)
  | fuel + 1, s =>
    match s.runs with
    | _ :: (deeper, _) :: _ =>
      if depth < deeper then
        match s.mergeLast less with
        | (s, none) => mergeDeeper depth fuel s
        | stopped => stopped
      else (s, none)
    | _ => (s, none)

/-- Merge all runs, the shorter neighbour of the last but one first; the fuel bounds their
number. -/
def mergeAll : Nat → Stack α → Stack α × Option ε
  | 0, s => (s, none)
  | fuel + 1, s =>
    let merged :=
      match s.runs with
      | (_, c) :: _ :: (_, a) :: _ =>
        if a.length < c.length then s.mergeBefore less else s.mergeLast less
      | _ => s.mergeLast less
    match merged with
    | (s, none) => mergeAll fuel s
    | stopped => stopped

end Stack

/-- The depth of a seam: how often a length has to be halved until a half ends between the middles
of the runs on both sides, which are given by twice their places. The fuel bounds it. -/
def seamDepth (length : Nat) : Nat → Nat → Nat → Nat
  | 0, _, _ => 0
  | fuel + 1, a, b =>
    if length ≤ a then seamDepth length fuel (2 * (a - length)) (2 * (b - length)) + 1
    else if length ≤ b then 1
    else seamDepth length fuel (2 * a) (2 * b) + 1

def Stack.push (s : Stack α) (length : Nat) (run : List α) : Stack α × Option ε :=
  match s.runs with
  | [] => (⟨[(0, run)], s.many⟩, none)
  | (_, top) :: _ =>
    let middle := 2 * s.items.length - top.length
    let depth := seamDepth length length middle (middle + top.length + run.length)
    match s.mergeDeeper less depth s.runs.length with
    | (s, none) =>
      let runs :=
        match s.runs with
        | (_, top) :: rest => (depth, top) :: rest
        | [] => []
      (⟨(0, run) :: runs, s.many⟩, none)
    | (s, some e) => (⟨(0, run) :: s.runs, s.many⟩, some e)

def sortOn (length : Nat) : Nat → Stack α → List α → List α × Option ε
  | 0, s, items => (s.items ++ items, none)
  | fuel + 1, s, items =>
    if items.isEmpty then
      let (s, stopped) := s.mergeAll less s.runs.length
      (s.items, stopped)
    else
      match nextRun less (leastRun 0 length) items with
      | .error (items, e) => (s.items ++ items, some e)
      | .ok (run, rest) =>
        match s.push less length run with
        | (s, none) => sortOn length fuel s rest
        | (s, some e) => (s.items ++ rest, some e)

/-- Sort items; where that is stopped, the items as they are by then. -/
def sort (items : List α) : List α × Option ε :=
  sortOn less items.length (items.length + 1) .empty items

end Understudy.Sorting
