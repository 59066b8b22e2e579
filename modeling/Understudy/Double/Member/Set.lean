import Understudy.Double.Member.Basic

/-! Sets of data, their members, and the sets that views of objects make.

A set is made by taking data in one by one; not everything can be taken in.
-/

set_option autoImplicit false

namespace Understudy

namespace Heap

variable (h : Heap)

def isAmong (items : List Datum) (d : Datum) : Except Slip Bool := h.shows (.set items) d

def joined (items : List Datum) (d : Datum) : Except Slip (List Datum) := do
  return if ← h.isAmong items d then items else items ++ [d]

def removed (items : List Datum) (d : Datum) : Except Slip (List Datum) := do
  if ← h.isAmong items d then items.filterM fun other => do return !(← h.alike d other)
  else return items

def common (g : Gathering) (ds : List Datum) : Except Slip (List Datum) :=
  ds.foldlM (fun found d => do if ← h.shows g d then h.joined found d else return found) []

def toggled (items ds : List Datum) : Except Slip (List Datum) :=
  ds.foldlM (fun items d => do
    if ← h.isAmong items d then h.removed items d else return items ++ [d]) items

end Heap

namespace Member

def distinctParts (d : Datum) : Work (List Datum) := do
  let ds ← Work.parts d
  Work.ask fun h => ds.foldlM h.joined []

def unitedWith (items : List Datum) (d : Datum) : Work (List Datum) := do
  let ds ← Work.parts d
  Work.ask fun h => ds.foldlM h.joined items

def reducedBy (items : List Datum) (d : Datum) : Work (List Datum) := do
  let ds ← Work.parts d
  Work.ask fun h => ds.foldlM h.removed items

def toggledBy (items : List Datum) (d : Datum) : Work (List Datum) := do
  let ds ← distinctParts d
  Work.ask fun h => h.toggled items ds

def sharedWith (items : List Datum) (d : Datum) : Work (List Datum) := do
  let ds ← Work.parts d
  Work.ask fun h => h.common (.set items) ds

def setItems? (h : Heap) : Datum → Option (List Datum)
  | .cell address =>
    match h.get? address with
    | some (.set items) => some items
    | _ => none
  | _ => none

def setPair? : String → Option (List Datum → Datum → Work (List Datum))
  | "and" => some sharedWith
  | "or" => some unitedWith
  | "sub" => some reducedBy
  | "xor" => some toggledBy
  | _ => none

def setOperation? (address : Nat) (items : List Datum) (name : String) : Option Member := do
  let word ← operationName? name
  let lead := word.toList.head?
  let rest := String.ofList (word.toList.drop 1)
  let other (f : List Datum → Work Datum) : Member :=
    taking fun d => do
      match setItems? (← get) d with
      | some others => f others
      | none => return .unanswered
  match setPair? word, lead, setPair? rest with
  | some f, _, _ =>
    some (taking fun d => do
      if (setItems? (← get) d).isNone then return .unanswered
      Work.allocate (.set (← f items d)))
  | none, some 'r', some f =>
    some (other fun others => do Work.allocate (.set (← f others (.cell address))))
  | none, some 'i', some f =>
    some (taking fun d => do
      if (setItems? (← get) d).isNone then return .unanswered
      Work.write address (.set (← f items d))
      return .cell address)
  | _, _, _ => none

def combining (items : List Datum) (f : List Datum → Datum → Work (List Datum))
    (finish : List Datum → Work Datum) : Member :=
  .operation fun args => do finish (← args.foldlM f items)

def setTest? (items : List Datum) : String → Option Member
  | "isdisjoint" =>
    some (taking fun d => do
      let ds ← Work.parts d
      return .truth !(← Work.ask fun h => ds.anyM (h.isAmong items)))
  | "issubset" =>
    some (taking fun d => do
      return .truth ((← sharedWith items d).length == items.length))
  | "issuperset" =>
    some (taking fun d => do
      let ds ← Work.parts d
      return .truth (← Work.ask fun h => ds.allM (h.isAmong items)))
  | "__contains__" =>
    some (taking fun d => do return .truth (← Work.ask fun h => h.isAmong items d))
  | "__len__" => some (counting items.length)
  | "__iter__" => some (walking (.still .set items))
  | _ => none

def setChange? (address : Nat) (items : List Datum) : String → Option Member :=
  let put (items : List Datum) : Work Datum := do
    Work.write address (.set items)
    return .nothing
  fun
  | "add" => some (taking fun d => do put (← Work.ask fun h => h.joined items d))
  | "discard" => some (taking fun d => do put (← Work.ask fun h => h.removed items d))
  | "remove" =>
    some (taking fun d => do
      if ← Work.ask fun h => h.isAmong items d then put (← Work.ask fun h => h.removed items d)
      else throw .noKey)
  | "pop" =>
    some (acting do
      match items with
      | d :: rest =>
        Work.write address (.set rest)
        return d
      | [] => throw .noKey)
  | "clear" => some (acting (put []))
  | "update" => some (combining items unitedWith put)
  | "difference_update" => some (combining items reducedBy put)
  | "intersection_update" => some (combining items sharedWith put)
  | "symmetric_difference_update" => some (taking fun d => do put (← toggledBy items d))
  | "__init__" =>
    some (.operation fun args => do
      if 1 < args.length then throw .wrongType
      Work.write address (.set [])
      put (← args.foldlM unitedWith []))
  | _ => none

def ofSet? (address : Nat) (items : List Datum) (name : String) : Option Member :=
  let made (items : List Datum) : Work Datum := Work.allocate (.set items)
  match name with
  | "copy" => some (acting (made items))
  | "union" => some (combining items unitedWith made)
  | "difference" => some (combining items reducedBy made)
  | "intersection" => some (combining items sharedWith made)
  | "symmetric_difference" => some (taking fun d => do made (← toggledBy items d))
  | name =>
    setTest? items name <|> setChange? address items name <|> setOperation? address items name

/-- What a view and a datum have in common: the larger one of two views is looked into. -/
def viewShared (view d : Datum) : Work (List Datum) := do
  let h ← get
  let isSet := (setItems? h d).isSome
  match h.gatheringOf? view, h.gatheringOf? d with
  | some own, some other =>
    if isSet && own.size ≤ other.size || !isSet && own.size < other.size then
      let ds ← Work.parts view
      Work.ask fun h => h.common other ds
    else
      let ds ← Work.parts d
      Work.ask fun h => h.common own ds
  | some own, none =>
    let ds ← Work.parts d
    Work.ask fun h => h.common own ds
  | none, _ => throw .wrongType

/-- Sets that a view makes with another datum, by the name of the operation; a name that leads with
an `r` puts the datum first. -/
def viewOperation? (view : Datum) (name : String) : Option Member := do
  let word ← operationName? name
  let rest := String.ofList (word.toList.drop 1)
  if word == "and" || word == "rand" then
    some (taking fun d => do Work.allocate (.set (← viewShared view d)))
  else if let some f := setPair? word then
    some (taking fun d => do Work.allocate (.set (← f (← distinctParts view) d)))
  else if word.startsWith "r" then
    (setPair? rest).map fun f =>
      taking fun d => do Work.allocate (.set (← f (← distinctParts d) view))
  else none

end Member
end Understudy
