import Understudy.Value.Basic

/-! Numbers of every kind in their order.

A number is worth an integer over a power of two, or lies beyond all of these; no number is
compared with the one that is none.
-/

set_option autoImplicit false

namespace Understudy

inductive Relation where
  | less
  | atMost
  | greater
  | atLeast
  deriving DecidableEq, Repr

def Relation.admits : Relation → Ordering → Bool
  | .less, o => o.isLT
  | .atMost, o => o.isLE
  | .greater, o => o.isGT
  | .atLeast, o => o.isGE

inductive Worth where
  | below
  /-- The integer over 2 ^ shift. -/
  | exact (number : Int) (shift : Nat)
  | above
  deriving DecidableEq, Repr

namespace Worth

def order : Worth → Worth → Ordering
  | .exact a s, .exact b t => compare (a * Nat.pow 2 t) (b * Nat.pow 2 s)
  | .below, .below | .above, .above => .eq
  | .below, _ | _, .above => .lt
  | _, .below | .above, _ => .gt

def ofReal? : Binary64 → Option Worth
  | .finite negative m e =>
    let number : Int := m * Nat.pow 2 e.toNat
    some (.exact (if negative then -number else number) (-e).toNat)
  | .infinite negative => some (if negative then .below else .above)
  | .nan => none

end Worth

namespace Value

/-- Whether values stand in a relation: numbers by their worth, texts by the numbers of their
characters. Other values have no order. -/
def ordered? (r : Relation) : Value → Value → Option Bool
  | .text s, .text t => some (r.admits (compare s t))
  | a, b =>
    match worth a, worth b with
    | some (some v), some (some w) => some (r.admits (v.order w))
    | some _, some _ => some false
    | _, _ => none
where
  worth : Value → Option (Option Worth)
    | .bool b => some (some (.exact (if b then 1 else 0) 0))
    | .int n => some (some (.exact n 0))
    | .real x => some (Worth.ofReal? x)
    | _ => none

end Value
end Understudy
