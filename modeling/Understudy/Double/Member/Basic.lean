import Understudy.Double.Cursor
import Understudy.Double.Likeness

/-! Members of data: what can be called by name on data that is no double.

Some members are data themselves and cannot be called. Arguments are given by position only; an
argument of a kind that a member does not take, or one too many, is a slip.
-/

set_option autoImplicit false

namespace Understudy

inductive Member where
  | data (d : Datum)
  | proxy (address : Nat)
  | description
  | operation (run : List Datum → Work Datum)
  | template (text : List Char) (byName : Bool)
  /-- Takes the entries of its argument into the object at an address, and may answer that
  object. -/
  | absorption (address : Nat) (answersObject : Bool)
  | construction (kind : String)
  | inquiry

namespace Member

def operationName? (name : String) : Option String :=
  if name.startsWith "__" && name.endsWith "__" && 4 < name.length then
    some (String.ofList ((name.toList.drop 2).take (name.length - 4)))
  else none

def reading (f : Heap → List Datum → Except Slip Datum) : Member :=
  .operation fun args => Work.ask fun h => f h args

def alone {α : Type} (a : α) (args : List Datum) : Except Slip α :=
  if args.isEmpty then .ok a else .error .wrongType

def acting (f : Work Datum) : Member :=
  .operation fun args => do
    alone () args
    f

def taking (f : Datum → Work Datum) : Member :=
  .operation fun args =>
    match args with
    | [d] => f d
    | _ => throw .wrongType

def listing (f : List Datum → Except Slip (List Datum)) : Member :=
  .operation fun args => do Work.allocate (.list (← f args))

def tupling (f : List Datum → Except Slip (List Datum)) : Member :=
  .operation fun args => do Work.allocate (.tuple (← f args))

def fixed (d : Datum) : Member := acting (pure d)

def fixedTruth (b : Bool) : Member := fixed (.truth b)

def counting (n : Nat) : Member := fixed (.int n)

def walking (route : Route) : Member := acting (Work.allocate (.cursor (.start route)))

def picking (d : Datum) : Member := taking fun key => Work.ask fun h => h.part d key

end Member

namespace Datum

def text : Datum → Except Slip (List Char)
  | .plain (.text s) => .ok s.toList
  | _ => .error .wrongType

def byteText : Datum → Except Slip (List Char)
  | .bytes data => .ok (data.map fun b => Char.ofNat b.toNat)
  | _ => .error .wrongType

def ofByteText (s : List Char) : Datum := .bytes (s.map fun c => UInt8.ofNat c.toNat)

def integer : Datum → Except Slip Int
  | .plain v =>
    match indexOf? v with
    | some n => .ok n
    | none => .error .wrongType
  | _ => .error .wrongType

/-- An argument that has to be an integer of so many bits, one of them the sign. -/
def word (bits : Nat) (d : Datum) : Except Slip Int := do
  let n ← d.integer
  let limit : Int := Nat.pow 2 (bits - 1)
  if n < -limit || limit ≤ n then throw .overflow else return n

def count (d : Datum) : Except Slip Int := d.word 64

/-- An argument that says how often something is done at most; below zero there is no limit. -/
def limit (usual : Nat) (d : Datum) : Except Slip Nat := do
  let n ← d.count
  return if n < 0 then usual else n.toNat

/-- A place among so many items; one below zero counts from the end. -/
def place (length : Nat) (d : Datum) : Except Slip Nat := do
  let n ← d.integer
  return if n < 0 then (n + length).toNat else n.toNat

def placeOr (length usual : Nat) (d : Datum) : Except Slip Nat :=
  if d.isNothing then .ok usual else d.place length

end Datum

/-- What has so many parts fits into no memory. -/
def lengthLimit : Nat := Nat.pow 2 31

def Datum.times (length : Nat) (d : Datum) : Except Slip Nat := do
  let n ← d.count
  if lengthLimit ≤ n.toNat * length then throw .tooLarge else return n.toNat

def window (bound : Nat → Datum → Except Slip Nat) (length : Nat) :
    List Datum → Except Slip (Nat × Nat)
  | [] => .ok (0, length)
  | [start] => do return (← bound 0 start, length)
  | [start, stop] => do return (← bound 0 start, min length (← bound length stop))
  | _ => .error .wrongType

end Understudy
