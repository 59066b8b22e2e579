/-! Merging two sorted runs that follow each other.

Items are taken one by one until one run has given many in a row; then whole stretches are looked
for by leaps. How many is many adapts to how well that goes. The shorter run is the near one: the
merge begins where it gives way, so that the other may stay where it is. A merge that is stopped
keeps what it has merged, and then what is left of both runs.
-/

set_option autoImplicit false

namespace Understudy.Sorting

/-! Places in a row of items that begins with those before something.

Questions may be stopped, and then the search is. Which items are asked about, and in which order,
is part of what a search does: one that is stopped shows it. -/

variable {α ε : Type}

def placeWithin (before : α → Except ε Bool) (items : Array α) (low high : Nat) :
    Except ε Nat := do
  if h : low < high ∧ high ≤ items.size then
    let middle := (low + high) / 2
    have inside : middle < items.size := by omega
    if ← before items[middle] then placeWithin before items (middle + 1) high
    else placeWithin before items low middle
  else return low
termination_by high - low

/-- Leap away by ever greater distances as long as a test holds: the last distance at which it
held, and the next one, within a limit. -/
def leap (test : Nat → Except ε Bool) (limit last next : Nat) : Except ε (Nat × Nat) := do
  if next < limit then
    if ← test next then leap test limit next (2 * next + 1) else return (last, next)
  else return (last, min next limit)
termination_by limit - next

def gallop (before : α → Except ε Bool) (items : Array α) (hint : Nat) : Except ε Nat := do
  let beforeAt (place : Nat) : Except ε Bool :=
    match items[place]? with
    | some x => before x
    | none => .ok false
  if ← beforeAt hint then
    let (last, next) ← leap (fun d => beforeAt (hint + d)) (items.size - hint) 0 1
    placeWithin before items (hint + last + 1) (hint + next)
  else
    let (last, next) ← leap (fun d => return !(← beforeAt (hint - d))) (hint + 1) 0 1
    placeWithin before items (hint + 1 - next) (hint - last)

end Understudy.Sorting

namespace Understudy.Sorting

variable {α ε : Type}

/-- What a merge makes of its items, what stopped it, and how many items in a row count as many
from then on. -/
structure Merge (α ε : Type) where
  items : List α
  stopped : Option ε
  many : Nat

def worthLeaping : Nat := 7

structure Seam (α ε : Type) where
  prefersFar : α → α → Except ε Bool
  countNear : α → List α → Except ε Nat
  countFar : α → List α → Except ε Nat
  nearFirst : Bool

/-- Two runs on their way: what is merged, backwards, and what is left of them. -/
structure Halves (α : Type) where
  merged : List α
  near : List α
  far : List α

namespace Halves

def takeNear (h : Halves α) (count : Nat) : Halves α :=
  ⟨(h.near.take count).reverse ++ h.merged, h.near.drop count, h.far⟩

def takeFar (h : Halves α) (count : Nat) : Halves α :=
  ⟨(h.far.take count).reverse ++ h.merged, h.near, h.far.drop count⟩

def items (h : Halves α) : List α := h.merged.reverse ++ h.near ++ h.far

/-- Whether the merge is over: the far run is used up, or at most one item of the near run is left,
which is known to be the last of all. -/
def isOver (h : Halves α) : Bool := h.far.isEmpty || h.near.length ≤ 1

def finished (h : Halves α) : List α :=
  if h.near.length = 1 then h.merged.reverse ++ h.far ++ h.near else h.items

def nearStretch (h : Halves α) (seam : Seam α ε) : Except ε (Nat × Halves α) :=
  match h.far with
  | [] => .ok (0, h)
  | y :: _ => do
    let count ← seam.countNear y h.near
    let h := h.takeNear count
    return (count, if h.isOver then h else h.takeFar 1)

def farStretch (h : Halves α) (seam : Seam α ε) : Except ε (Nat × Halves α) :=
  match h.near with
  | [] => .ok (0, h)
  | x :: _ => do
    let count ← seam.countFar x h.far
    let h := h.takeFar count
    return (count, if h.isOver then h else h.takeNear 1)

def stretch (h : Halves α) (seam : Seam α ε) (near : Bool) : Except ε (Nat × Halves α) :=
  if near then h.nearStretch seam else h.farStretch seam

end Halves

/-- What a merge does next: compare items, when the near and the far run have just given so many in
a row, or look for stretches. -/
inductive Pace where
  | single (nearRow farRow : Nat)
  | leaping

/-- Go on merging. The fuel bounds the number of steps, each of which takes an item. -/
def mergeOn (seam : Seam α ε) : Nat → Pace → Nat → Halves α → Merge α ε
  | 0, _, many, h => ⟨h.items, none, many⟩
  | fuel + 1, .single nearRow farRow, many, h =>
    match h.near, h.far with
    | x :: _, y :: _ =>
      match seam.prefersFar x y with
      | .error e => ⟨h.items, some e, many⟩
      | .ok far =>
        let h := if far then h.takeFar 1 else h.takeNear 1
        let nearRow := if far then 0 else nearRow + 1
        let farRow := if far then farRow + 1 else 0
        if h.isOver then ⟨h.finished, none, many⟩
        else if many ≤ max nearRow farRow then mergeOn seam fuel .leaping (many + 1) h
        else mergeOn seam fuel (.single nearRow farRow) many h
    | _, _ => ⟨h.items, none, many⟩
  | fuel + 1, .leaping, many, h =>
    let many := if 1 < many then many - 1 else many
    match h.stretch seam seam.nearFirst with
    | .error e => ⟨h.items, some e, many⟩
    | .ok (count, h) =>
      if h.isOver then ⟨h.finished, none, many⟩
      else
        match h.stretch seam !seam.nearFirst with
        | .error e => ⟨h.items, some e, many⟩
        | .ok (other, h) =>
          if h.isOver then ⟨h.finished, none, many⟩
          else if worthLeaping ≤ max count other then mergeOn seam fuel .leaping many h
          else mergeOn seam fuel (.single 0 0) (many + 1) h

def mergeHalves (seam : Seam α ε) (many : Nat) (near far : List α) : Merge α ε :=
  let h : Halves α := ⟨[], near, far⟩
  let begun := h.takeFar 1
  if begun.isOver then ⟨begun.finished, none, many⟩
  else mergeOn seam (near.length + far.length) (.single 0 0) many begun

variable (less : α → α → Except ε Bool)

def notAfter (y x : α) : Except ε Bool := return !(← less y x)

def frontSeam : Seam α ε where
  prefersFar x y := less y x
  countNear y near := gallop (notAfter less y) near.toArray 0
  countFar x far := gallop (less · x) far.toArray 0
  nearFirst := true

/-- Merging from the back: the near run is the second one, and both are given backwards. -/
def backSeam : Seam α ε where
  prefersFar x y := less x y
  countNear y near := do
    return near.length - (← gallop (less · y) near.reverse.toArray (near.length - 1))
  countFar x far := do
    return far.length - (← gallop (notAfter less x) far.reverse.toArray (far.length - 1))
  nearFirst := false

/-- Merge two runs, when that leaves something to do: the first begins with an item that goes behind
one of the second, and the second ends with one that goes before one of the first. -/
def mergeCore (many : Nat) (a b : List α) : Merge α ε :=
  if a.length ≤ b.length then mergeHalves (frontSeam less) many a b
  else
    let back := mergeHalves (backSeam less) many b.reverse a.reverse
    { back with items := back.items.reverse }

def overlap (a b : List α) : Except ε (Nat × Nat) := do
  let start ←
    match b with
    | [] => pure a.length
    | y :: _ => gallop (notAfter less y) a.toArray 0
  match (a.drop start).getLast? with
  | none => return (start, 0)
  | some x => return (start, ← gallop (less · x) b.toArray (b.length - 1))

/-- Merge two runs. What is in place at both ends stays there. -/
def mergeRuns (many : Nat) (a b : List α) : Merge α ε :=
  match overlap less a b with
  | .error e => ⟨a ++ b, some e, many⟩
  | .ok (start, stop) =>
    if stop = 0 then ⟨a ++ b, none, many⟩
    else
      let core := mergeCore less many (a.drop start) (b.take stop)
      { core with items := a.take start ++ core.items ++ b.drop stop }

end Understudy.Sorting
