import Understudy.Double.Heap
import Understudy.Number.Worth
import Understudy.Value.Alike
import Understudy.Value.Index

/-! Data that count as one, and what is found under keys and indices.

Comparing data can slip: a view shows something or not, and not everything can be looked for.
-/

set_option autoImplicit false

namespace Understudy

namespace Heap

/-- Whether a datum can be a key. Lists, objects and views that can be compared cannot, and
neither can tuples that hold them. -/
def isKeyWith (h : Heap) : Nat → Datum → Bool
  | _, .plain v => v.isPlain
  | fuel + 1, .cell address =>
    match h.get? address with
    | some (.tuple items) => items.all (h.isKeyWith fuel)
    | some (.view _ face) => face == .values
    | some (.cursor _) | some (.caller ..) | some .nan => true
    | some (.list _) | some (.object _) | some (.set _) | some (.proxy _) | none => false
  | 0, .cell _ => false
  | _, _ => true

def isKey (h : Heap) (d : Datum) : Bool := h.isKeyWith (h.cells.length + 1) d

def pair? (h : Heap) : Datum → Option (Datum × Datum)
  | .cell address =>
    match h.get? address with
    | some (.tuple [a, b]) => some (a, b)
    | _ => none
  | _ => none

end Heap

/-- What is shown by data that are compared by what they show: a datum, or a key with what stands
under it. -/
inductive Portion where
  | single (d : Datum)
  | pair (key d : Datum)
  deriving DecidableEq, Repr

inductive Gathering where
  | keys (pairs : List (Datum × Datum))
  | entries (pairs : List (Datum × Datum))
  | set (items : List Datum)
  deriving DecidableEq, Repr

namespace Gathering

def portions : Gathering → List Portion
  | .keys pairs => pairs.map fun (key, _) => .single key
  | .entries pairs => pairs.map fun (key, d) => .pair key d
  | .set items => items.map .single

def size (g : Gathering) : Nat := g.portions.length

end Gathering

def Face.gathering? (face : Face) (pairs : List (Datum × Datum)) : Option Gathering :=
  match face with
  | .keys => some (.keys pairs)
  | .entries => some (.entries pairs)
  | .values => none

namespace Heap

variable (h : Heap) (same : Datum → Datum → Except Slip Bool)

def gathering? : Cell → Option Gathering
  | .view target face => face.gathering? (h.entriesAt target)
  | .set items => some (.set items)
  | _ => none

def holdsPair (pairs : List (Datum × Datum)) (key d : Datum) : Except Slip Bool := do
  if !h.isKey key then throw .wrongType
  match ← pairs.findM? fun (other, _) => same key other with
  | some (_, held) => same held d
  | none => return false

def isPair (key d other : Datum) : Except Slip Bool :=
  match h.pair? other with
  | some (k, e) => do if ← same key k then same d e else return false
  | none => .ok false

/-- Whether a gathering shows a portion; `same` says what counts as one. -/
def showsWith (g : Gathering) (p : Portion) : Except Slip Bool :=
  let among (items : List Datum) : Except Slip Bool :=
    match p with
    | .single d => if h.isKey d then items.anyM (same d) else .error .wrongType
    | .pair key d =>
      if h.isKey key && h.isKey d then items.anyM (h.isPair same key d) else .error .wrongType
  match g, p with
  | .entries pairs, .pair key d => h.holdsPair same pairs key d
  | .entries pairs, .single d =>
    match h.pair? d with
    | some (key, d) => h.holdsPair same pairs key d
    | none => .ok false
  | .keys pairs, _ => among (pairs.map (·.1))
  | .set items, _ => among items

def showsAllWith (g : Gathering) (portions : List Portion) : Except Slip Bool :=
  portions.allM (h.showsWith same g)

/-- Whether two data count as one. Doubles are only what they are; the fuel bounds how deep
distinct cells can lie in each other. -/
def alikeWith (h : Heap) : Nat → Datum → Datum → Except Slip Bool
  | _, .plain a, .plain b => .ok (a.alike b)
  | fuel + 1, .cell a, .cell b =>
    let all (xs ys : List Datum) : Except Slip Bool :=
      if xs.length ≠ ys.length then .ok false
      else (xs.zip ys).allM fun (x, y) => h.alikeWith fuel x y
    if a = b then .ok true
    else
      match h.get? a, h.get? b with
      | some (.list xs), some (.list ys) | some (.tuple xs), some (.tuple ys) => all xs ys
      | some (.object xs), some (.object ys) =>
        if xs.length ≠ ys.length then .ok false
        else xs.allM fun (key, x) => h.holdsPair (h.alikeWith fuel) ys key x
      | some x, some y =>
        match h.gathering? x, h.gathering? y with
        | some xs, some ys =>
          if xs.size ≠ ys.size then .ok false
          else h.showsAllWith (h.alikeWith fuel) ys xs.portions
        | _, _ => .ok false
      | _, _ => .ok false
  | _, d, e => .ok (d == e)

def alike (d e : Datum) : Except Slip Bool := h.alikeWith (h.cells.length + 1) d e

/-- Whether two keys count as one. -/
def sameKey (key other : Datum) : Bool := h.alike key other matches .ok true

def shows (g : Gathering) (d : Datum) : Except Slip Bool := h.showsWith h.alike g (.single d)

def gatheringOf? : Datum → Option Gathering
  | .cell address => (h.get? address).bind h.gathering?
  | _ => none

/-- What stands under a key among entries; not everything is a key. -/
def lookUp (entries : List (Datum × Datum)) (key : Datum) : Except Slip (Option Datum) :=
  if h.isKey key then .ok ((entries.find? (h.sameKey key ·.1)).map (·.2)) else .error .wrongType

/-- Entries with a datum under a key. An entry that is there keeps its key and its place. -/
def withEntry (entries : List (Datum × Datum)) (key d : Datum) :
    Except Slip (List (Datum × Datum)) := do
  match ← h.lookUp entries key with
  | none => return entries ++ [(key, d)]
  | some _ => return entries.map fun (other, held) => (other, if h.sameKey key other then d else held)

def withoutEntry (entries : List (Datum × Datum)) (key : Datum) : List (Datum × Datum) :=
  entries.filter fun (other, _) => !h.sameKey key other

def pickDatum {α : Type} (items : List α) (index : Datum) : Except Slip α :=
  match index with
  | .plain v => pickAt items v
  | _ => .error .wrongType

def under (entries : List (Datum × Datum)) (key : Datum) : Except Slip Datum := do
  match ← h.lookUp entries key with
  | some d => return d
  | none => .error .noKey

def part (d key : Datum) : Except Slip Datum :=
  match d with
  | .cell address =>
    match h.get? address with
    | some (.list items) | some (.tuple items) => pickDatum items key
    | some (.object entries) => h.under entries key
    | some (.proxy target) => h.under (h.entriesAt target) key
    | _ => .error .wrongType
  | .plain (.text s) => (pickDatum s.toList key).map fun c => .ofChars [c]
  | .bytes data => (pickDatum data key).map fun b => .int b.toNat
  | _ => .error .wrongType

def follow (d : Datum) (path : List Value) : Except Slip Datum :=
  path.foldlM (fun d key => h.part d (.plain key)) d

end Heap

end Understudy

namespace Understudy.Heap

/-! The order of data. -/

/-- Whether data stand in a relation. Lists and tuples are compared by the first items that
differ, views and sets by what they show; the fuel bounds how deep distinct cells can lie in each other. -/
def orderedWith (h : Heap) (r : Relation) : Nat → Datum → Datum → Except Slip Bool
  | 0, _, _ => .error .wrongType
  | fuel + 1, d, e =>
    match h.value? d, h.value? e, d, e with
    | some a, some b, _, _ =>
      match a.ordered? r b with
      | some answer => .ok answer
      | none => .error .wrongType
    | _, _, .bytes a, .bytes b => .ok (r.admits (compare a b))
    | _, _, .cell a, .cell b =>
      match h.get? a, h.get? b with
      | some (.list xs), some (.list ys) | some (.tuple xs), some (.tuple ys) => do
        match ← (xs.zip ys).findM? fun (x, y) => do return !(← h.alike x y) with
        | some (x, y) => h.orderedWith r fuel x y
        | none => return r.admits (compare xs.length ys.length)
      | some x, some y =>
        match h.gathering? x, h.gathering? y with
        | some xs, some ys =>
          if !r.admits (compare xs.size ys.size) then .ok false
          else
            match r with
            | .less | .atMost => h.showsAllWith h.alike ys xs.portions
            | .greater | .atLeast => h.showsAllWith h.alike xs ys.portions
        | _, _ => .error .wrongType
      | _, _ => .error .wrongType
    | _, _, _, _ => .error .wrongType

def ordered (h : Heap) (r : Relation) (d e : Datum) : Except Slip Bool :=
  h.orderedWith r (h.cells.length + 1) d e

def less (h : Heap) (d e : Datum) : Except Slip Bool := h.ordered .less d e

end Understudy.Heap
