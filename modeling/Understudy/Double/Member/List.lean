import Understudy.Double.Member.Basic
import Understudy.Double.Likeness
import Understudy.Sorting.Basic

/-! Members of lists and tuples. -/

set_option autoImplicit false

namespace Understudy

def Heap.placeOfLike? (h : Heap) (d : Datum) : List Datum → Except Slip (Option Nat)
  | [] => .ok none
  | item :: rest => do
    if ← h.alike item d then return some 0 else return (← h.placeOfLike? d rest).map (· + 1)

namespace Member

def placeWithin (h : Heap) (items : List Datum) : List Datum → Except Slip Datum
  | d :: bounds => do
    let (start, stop) ← window (fun _ => Datum.place items.length) items.length bounds
    match ← h.placeOfLike? d ((items.take stop).drop start) with
    | some place => return .int (start + place)
    | none => throw .badValue
  | [] => .error .wrongType

def itemsMember? (address : Nat) (items : List Datum) : String → Option Member
  | "count" =>
    some (taking fun d => Work.ask fun h => do
      return .int (← items.filterM fun item => h.alike item d).length)
  | "index" => some (reading fun h args => placeWithin h items args)
  | "__len__" => some (counting items.length)
  | "__getitem__" => some (picking (.cell address))
  | "__contains__" =>
    some (taking fun d => Work.ask fun h => do return .truth (← h.placeOfLike? d items).isSome)
  | _ => none

def itemsMade? (items : List Datum) (cell : List Datum → Cell) (more : Datum → Work (List Datum)) :
    String → Option Member
  | "__add__" => some (taking fun d => do Work.allocate (cell (items ++ (← more d))))
  | "__mul__" | "__rmul__" =>
    some (taking fun d => do
      Work.allocate (cell (List.replicate (← d.times items.length) items).flatten))
  | _ => none

def tupleItems (d : Datum) : Work (List Datum) := do
  match d, ← get with
  | .cell address, h =>
    match h.get? address with
    | some (.tuple items) => return items
    | _ => throw .wrongType
  | _, _ => throw .wrongType

def listItems (d : Datum) : Work (List Datum) := do
  match d, ← get with
  | .cell address, h =>
    match h.get? address with
    | some (.list items) => return items
    | _ => throw .wrongType
  | _, _ => throw .wrongType

def ofTuple? (address : Nat) (items : List Datum) : String → Option Member
  | "__iter__" => some (walking (.still .tuple items))
  | "__getnewargs__" => some (tupling (alone [.cell address]))
  | name => itemsMember? address items name <|> itemsMade? items .tuple tupleItems name

def rearranging (address : Nat) (change : List Datum → Work (List Datum)) : Member :=
  .operation fun args => do
    Work.write address (.list (← change args))
    return .nothing

def growing (address : Nat) (change : Datum → Work (List Datum)) : Member :=
  taking fun d => do
    Work.write address (.list (← change d))
    return .cell address

def takeOut (address : Nat) (items : List Datum) (index : Int) : Work Datum := do
  let d ← pick items index
  match placeOf? items.length index with
  | some place =>
    Work.write address (.list (items.eraseIdx place))
    return d
  | none => throw .outOfRange

/-- Sort the list at an address; what is sorted stays so even if sorting is stopped. -/
def sorting (address : Nat) (items : List Datum) : Member :=
  acting do
    let (sorted, stopped) := Sorting.sort (← get).less items
    Work.write address (.list sorted)
    match stopped with
    | none => return .nothing
    | some slip => throw slip

def placeAt (items : List Datum) (index : Datum) : Except Slip Nat := do
  match placeOf? items.length (← index.integer) with
  | some place => return place
  | none => throw .outOfRange

def listChange? (address : Nat) (items : List Datum) : String → Option Member
  | "append" => some (taking fun d => do
    Work.write address (.list (items ++ [d]))
    return .nothing)
  | "clear" => some (rearranging address fun args => alone [] args)
  | "extend" => some (taking fun d => do
    let more ← Work.parts d
    Work.write address (.list (items ++ more))
    return .nothing)
  | "insert" =>
    some (rearranging address fun args =>
      match args with
      | [index, d] => do
        let index ← index.count
        let place := if index < 0 then (index + items.length).toNat else index.toNat
        return items.take place ++ d :: items.drop place
      | _ => throw .wrongType)
  | "pop" =>
    some (.operation fun args =>
      match args with
      | [] => takeOut address items (-1)
      | [index] => do takeOut address items (← index.count)
      | _ => throw .wrongType)
  | "remove" => some (taking fun d => do
    match ← Work.ask fun h => h.placeOfLike? d items with
    | some place =>
      Work.write address (.list (items.eraseIdx place))
      return .nothing
    | none => throw .badValue)
  | "reverse" => some (rearranging address fun args => alone items.reverse args)
  | "sort" => some (sorting address items)
  | "__setitem__" =>
    some (rearranging address fun args =>
      match args with
      | [index, d] => do return items.set (← placeAt items index) d
      | _ => throw .wrongType)
  | "__delitem__" =>
    some (rearranging address fun args =>
      match args with
      | [index] => do return items.eraseIdx (← placeAt items index)
      | _ => throw .wrongType)
  | "__init__" =>
    some (.operation fun args => do
      if 1 < args.length then throw .wrongType
      Work.write address (.list [])
      let parts ← args.mapM Work.parts
      Work.write address (.list parts.flatten)
      return .nothing)
  | "__iadd__" => some (growing address fun d => do return items ++ (← Work.parts d))
  | "__imul__" =>
    some (growing address fun d => do
      return (List.replicate (← d.times items.length) items).flatten)
  | _ => none

def ofList? (address : Nat) (items : List Datum) : String → Option Member
  | "copy" => some (acting (Work.allocate (.list items)))
  | "__iter__" => some (walking (.list address))
  | "__reversed__" => some (walking (.listBack address items.length))
  | name =>
    itemsMember? address items name <|> itemsMade? items .list listItems name
      <|> listChange? address items name

end Member
end Understudy
