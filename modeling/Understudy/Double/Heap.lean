import Understudy.Slip
import Understudy.Value.Basic

/-! Data that tests and doubles share.

Lists, tuples, sets and objects have an identity: they lie in cells, and whoever holds the address
sees later changes. Views of objects, cursors, functions and numbers that are none have an identity
too. All other data is without parts and is what it is.
-/

set_option autoImplicit false

namespace Understudy

inductive Face where
  | keys
  | values
  | entries
  deriving DecidableEq, Repr

inductive Turn where
  | attribute (name : String)
  | item (index : Nat)
  | key (name : String)
  deriving DecidableEq, Repr

/-- What a test passes to a double, sets as its answer or gets back. -/
inductive Datum where
  /-- A value without parts that is not the number that is none. -/
  | plain (value : Value)
  | bytes (data : List UInt8)
  | cell (address : Nat)
  | double (number : Nat)
  /-- A copy of a double: its slots are those of the double, and it is another object. -/
  | twin (number : Nat)
  /-- What an operation answers to a datum that it leaves to others. -/
  | unanswered
  | operation (owner : Datum) (name : String)
  | kind (name : String)
  /-- What a double keeps, by the way that leads to it. -/
  | kept (number : Nat) (way : List Turn)
  deriving DecidableEq, Repr

namespace Datum

def nothing : Datum := .plain .null

def isNothing (d : Datum) : Bool := d == nothing

def truth (b : Bool) : Datum := .plain (.bool b)

def int (n : Int) : Datum := .plain (.int n)

def ofChars (s : List Char) : Datum := .plain (.text (String.ofList s))

end Datum

/-- Kinds of data that are walked through as they are. -/
inductive Still where
  | tuple
  | text
  | bytes
  | set
  deriving DecidableEq, Repr

inductive Route where
  /-- The items of the list at an address, as they are when asked for. -/
  | list (address : Nat)
  /-- The items of the list at an address before a place, the last one first. -/
  | listBack (address place : Nat)
  | still (kind : Still) (items : List Datum)
  /-- What a view of the object at an address shows, as long as it has so many entries. -/
  | entries (address : Nat) (face : Face) (fromEnd : Bool) (size : Nat)
  deriving DecidableEq, Repr

inductive Progress where
  | given (count : Nat)
  /-- The object has changed, and the walk goes on no more. -/
  | disturbed
  | finished
  deriving DecidableEq, Repr

/-- A walk that gives the parts of a datum one by one. -/
structure Cursor where
  route : Route
  progress : Progress
  deriving DecidableEq, Repr

inductive Cell where
  | list (items : List Datum)
  /-- A list of fixed items. -/
  | tuple (items : List Datum)
  | object (entries : List (Datum × Datum))
  /-- Data of which no two count as one, in no order. -/
  | set (items : List Datum)
  /-- A view of the object in a cell. -/
  | view (address : Nat) (face : Face)
  | proxy (address : Nat)
  | caller (number : Nat) (name : String)
  | cursor (c : Cursor)
  /-- A number that is none: it is like itself only. -/
  | nan
  deriving DecidableEq, Repr

structure Heap where
  cells : List Cell
  deriving DecidableEq, Repr

namespace Heap

def empty : Heap := ⟨[]⟩

def get? (h : Heap) (address : Nat) : Option Cell := h.cells[address]?

def allocate (h : Heap) (cell : Cell) : Heap × Datum :=
  (⟨h.cells ++ [cell]⟩, .cell h.cells.length)

def set (h : Heap) (address : Nat) (cell : Cell) : Heap := ⟨h.cells.set address cell⟩

theorem get?_set_ne (h : Heap) (cell : Cell) {address other : Nat} (ne : address ≠ other) :
    (h.set address cell).get? other = h.get? other := by
  simp [set, get?, ne]

mutual

/-- Put a value on the heap, its lists, objects and numbers that are none in cells of their own. -/
def place (h : Heap) : Value → Heap × Datum
  | .list items =>
    let (h, items) := placeItems h items
    h.allocate (.list items)
  | .object entries =>
    let (h, entries) := placeEntries h entries
    h.allocate (.object entries)
  | .real .nan => h.allocate .nan
  | value => (h, .plain value)

def placeItems (h : Heap) : List Value → Heap × List Datum
  | [] => (h, [])
  | v :: rest =>
    let (h, d) := place h v
    let (h, ds) := placeItems h rest
    (h, d :: ds)

def placeEntries (h : Heap) : List (String × Value) → Heap × List (Datum × Datum)
  | [] => (h, [])
  | (key, v) :: rest =>
    let (h, d) := place h v
    let (h, ds) := placeEntries h rest
    (h, (.plain (.text key), d) :: ds)

end

def entriesAt (h : Heap) (address : Nat) : List (Datum × Datum) :=
  match h.get? address with
  | some (.object entries) => entries
  | _ => []

def itemsAt (h : Heap) (address : Nat) : List Datum :=
  match h.get? address with
  | some (.list items) => items
  | _ => []

def length (h : Heap) : Datum → Except Slip Nat
  | .plain (.text s) => .ok s.length
  | .bytes data => .ok data.length
  | .cell address =>
    match h.get? address with
    | some (.list items) | some (.tuple items) | some (.set items) => .ok items.length
    | some (.object entries) => .ok entries.length
    | some (.view target _) | some (.proxy target) => .ok (h.entriesAt target).length
    | _ => .error .wrongType
  | _ => .error .wrongType

def value? (h : Heap) : Datum → Option Value
  | .plain v => some v
  | .cell address =>
    match h.get? address with
    | some .nan => some (.real .nan)
    | _ => none
  | _ => none

end Heap
end Understudy
