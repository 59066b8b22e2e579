import Understudy.Double.Member.Set

/-! Members of views of objects, and of cursors. -/

set_option autoImplicit false

namespace Understudy.Member

def showsNone (h : Heap) (g : Gathering) (ds : List Datum) : Except Slip Bool := do
  return !(← ds.anyM (h.shows g))

/-- Whether a view at an address and a datum have no part in common. The smaller one of two
gatherings is gone through. -/
def disjoint (address : Nat) (d : Datum) : Work Bool := do
  let h ← get
  let some own := h.gatheringOf? (.cell address) | throw .wrongType
  if d == .cell address then return own.size == 0
  match h.gatheringOf? d with
  | some other =>
    if own.size < other.size then
      let parts ← Work.parts (.cell address)
      Work.ask fun h => showsNone h other parts
    else
      let parts ← Work.parts d
      Work.ask fun h => showsNone h own parts
  | none =>
    let parts ← Work.parts d
    Work.ask fun h => showsNone h own parts

def searchedView? (address : Nat) : String → Option Member
  | "isdisjoint" => some (taking fun d => do return .truth (← disjoint address d))
  | "__contains__" =>
    some (taking fun d => Work.ask fun h => do
      match h.gatheringOf? (.cell address) with
      | some g => return .truth (← h.shows g d)
      | none => throw .wrongType)
  | _ => none

def walkingView (target : Nat) (face : Face) (fromEnd : Bool) : Member :=
  acting do
    let size := ((← get).entriesAt target).length
    Work.allocate (.cursor (.start (.entries target face fromEnd size)))

def ofView? (address target : Nat) (face : Face) : String → Option Member
  | "mapping" => some (.proxy target)
  | "__len__" => some (reading fun h args => alone (.int (h.entriesAt target).length) args)
  | "__iter__" => some (walkingView target face false)
  | "__reversed__" => some (walkingView target face true)
  | name =>
    if face == .values then none
    else searchedView? address name <|> viewOperation? (.cell address) name

def canMove (c : Cursor) : Bool :=
  match c.route with
  | .entries .. | .still .set _ => false
  | _ => true

/-- A cursor set to the part at a place, unless it has come to its end. -/
def moved (c : Cursor) (place : Int) : Work Cursor := do
  match c.progress, c.route with
  | .given _, .listBack address _ =>
    let length := ((← get).itemsAt address).length
    return .start (.listBack address (min (place + 1).toNat length))
  | .given _, route =>
    return { c with progress := .given (min place.toNat (← route.parts).length) }
  | _, _ => return c

def ofCursor? (address : Nat) (c : Cursor) : String → Option Member
  | "__iter__" => some (fixed (.cell address))
  | "__next__" => some (acting (c.next address))
  | "__length_hint__" =>
    some (acting do
      let left ← tryCatch c.ahead fun _ => pure []
      return .int left.length)
  | "__setstate__" =>
    if canMove c then
      some (taking fun d => do
        Work.write address (.cursor (← moved c (← d.count)))
        return .nothing)
    else none
  | _ => none

end Understudy.Member
