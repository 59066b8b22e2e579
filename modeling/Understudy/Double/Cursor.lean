import Understudy.Double.Heap

/-! Work on the heap, and walks through data.

A cursor through a list or an object looks at it anew with every step. What it yields is what lies
ahead of it; once it has come to an end it stays there.
-/

set_option autoImplicit false

namespace Understudy

/-- What may change the heap and may slip. What is changed before a slip stays changed. -/
abbrev Work := ExceptT Slip (StateM Heap)

namespace Work

/-- A question about the heap. -/
def ask {α : Type} (question : Heap → Except Slip α) : Work α := do question (← get)

def allocate (cell : Cell) : Work Datum := modifyGet fun h =>
  let (h, d) := h.allocate cell
  (d, h)

def write (address : Nat) (cell : Cell) : Work Unit := modify (·.set address cell)

def place (v : Value) : Work Datum := modifyGet fun h =>
  let (h, d) := h.place v
  (d, h)

def placePairs (pairs : List (Datum × Datum)) : Work (List Datum) :=
  pairs.mapM fun (a, b) => allocate (.tuple [a, b])

end Work

def Face.parts (face : Face) (pairs : List (Datum × Datum)) : Work (List Datum) :=
  match face with
  | .keys => pure (pairs.map (·.1))
  | .values => pure (pairs.map (·.2))
  | .entries => Work.placePairs pairs

namespace Route

def parts : Route → Work (List Datum)
  | .list address => do return (← get).itemsAt address
  | .listBack address place => do
    let items := (← get).itemsAt address
    return if place ≤ items.length then (items.take place).reverse else []
  | .still _ items => pure items
  | .entries address face fromEnd size => do
    let entries := (← get).entriesAt address
    if entries.length ≠ size then throw .disturbed
    let parts ← face.parts entries
    return if fromEnd then parts.reverse else parts

def after (r : Route) (count : Nat) : Work (List Datum) :=
  match r with
  | .listBack address place => (Route.listBack address (place - count)).parts
  | r => do return (← r.parts).drop count

end Route

namespace Cursor

def start (route : Route) : Cursor := ⟨route, .given 0⟩

def ahead (c : Cursor) : Work (List Datum) :=
  match c.progress with
  | .given count => c.route.after count
  | .disturbed => throw .disturbed
  | .finished => pure []

/-- What lies ahead of the cursor at an address; one that finds its object changed remembers
it. -/
def aheadOf (address : Nat) (c : Cursor) : Work (List Datum) :=
  tryCatch c.ahead fun slip => do
    Work.write address (.cursor { c with progress := .disturbed })
    throw slip

def next (address : Nat) (c : Cursor) : Work Datum := do
  match ← aheadOf address c, c.progress with
  | d :: _, .given count =>
    Work.write address (.cursor { c with progress := .given (count + 1) })
    return d
  | _, _ =>
    Work.write address (.cursor { c with progress := .finished })
    throw .exhausted

def drain (address : Nat) (c : Cursor) : Work (List Datum) := do
  let parts ← aheadOf address c
  Work.write address (.cursor { c with progress := .finished })
  return parts

/-- The copy of a cursor. One through an object is copied as one through a list of what lies
ahead; of a finished one through a text or bytes the kind is lost. -/
def copy (c : Cursor) : Work Cursor :=
  match c.route, c.progress with
  | .entries .., _ => do
    match ← Work.allocate (.list (← c.ahead)) with
    | .cell address => return .start (.list address)
    | _ => return c
  | .still .text _, .finished => pure ⟨.still .text [], .finished⟩
  | .still .bytes _, .finished => pure ⟨.still .tuple [], .finished⟩
  | _, _ => pure c

end Cursor

namespace Work

/-- Copy a datum. The copy of a list, set or object is a new cell that holds the same data, so what
lies deeper is shared. Views cannot be copied. -/
def copy : Datum → Work Datum
  | .cell address => do
    match (← get).get? address with
    | some (.list items) => allocate (.list items)
    | some (.object entries) => allocate (.object entries)
    | some (.set items) => allocate (.set items)
    | some (.cursor c) => allocate (.cursor (← c.copy))
    | some (.view ..) | some (.proxy _) => throw .wrongType
    | some (.tuple _) | some (.caller ..) | some .nan | none => return .cell address
  | .double number => pure (.twin number)
  | d => pure d

def parts : Datum → Work (List Datum)
  | .plain (.text s) => pure (s.toList.map fun c => .ofChars [c])
  | .bytes data => pure (data.map fun b => .int b.toNat)
  | .cell address => do
    match (← get).get? address with
    | some (.list items) | some (.tuple items) | some (.set items) => return items
    | some (.object entries) => return entries.map (·.1)
    | some (.view target face) => face.parts ((← get).entriesAt target)
    | some (.proxy target) => Face.keys.parts ((← get).entriesAt target)
    | some (.cursor c) => c.drain address
    | some (.caller ..) | some .nan | none => throw .wrongType
  | _ => throw .wrongType

end Work
end Understudy
