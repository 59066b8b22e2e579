import Understudy.Slip
import Understudy.Value.Basic

/-! Picking items by an index; a negative one counts from the end. -/

set_option autoImplicit false

namespace Understudy

variable {α : Type}

def placeOf? (length : Nat) (index : Int) : Option Nat :=
  let place := if index < 0 then index + length else index
  if 0 ≤ place && place < length then some place.toNat else none

def pick (items : List α) (index : Int) : Except Slip α :=
  match (placeOf? items.length index).bind (items[·]?) with
  | some item => .ok item
  | none => .error .outOfRange

/-- The integer that an index is: truth values count as zero and one. -/
def indexOf? : Value → Option Int
  | .int n => some n
  | .bool b => some (if b then 1 else 0)
  | _ => none

def pickAt (items : List α) (index : Value) : Except Slip α :=
  match indexOf? index with
  | some n => pick items n
  | none => .error .wrongType

end Understudy
