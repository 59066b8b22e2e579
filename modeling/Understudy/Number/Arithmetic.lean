import Understudy.Number.Binary64
import Understudy.Slip

/-! Arithmetic of double-precision numbers.

Every finite number is an integer count of the least one. Sums, products and quotients are computed
exactly on these counts and rounded once.
-/

set_option autoImplicit false

namespace Understudy.Binary64

/-- How many times the least positive number goes into one. -/
def scale : Nat := Nat.pow 2 1074

def counted (negative : Bool) (m : Nat) (e : Int) : Int :=
  let count : Int := m * Nat.pow 2 (e - leastExponent).toNat
  if negative then -count else count

def ofRatio (negative : Bool) (num : Int) (den : Nat) : Binary64 :=
  if num = 0 then zero negative else ofQuotient (num < 0) num.natAbs den

def isNegative : Binary64 → Bool
  | .finite negative .. | .infinite negative => negative
  | .nan => false

def negated : Binary64 → Binary64
  | .finite negative m e => .finite (!negative) m e
  | .infinite negative => .infinite (!negative)
  | .nan => .nan

def magnitude : Binary64 → Binary64
  | .finite _ m e => .finite false m e
  | .infinite _ => .infinite false
  | .nan => .nan

def plus : Binary64 → Binary64 → Binary64
  | .finite n m e, .finite n' m' e' =>
    ofRatio (n && n') (counted n m e + counted n' m' e') scale
  | .nan, _ | _, .nan => .nan
  | .infinite a, .infinite b => if a == b then .infinite a else .nan
  | .infinite a, _ | _, .infinite a => .infinite a

def minus (x y : Binary64) : Binary64 := x.plus y.negated

def product : Binary64 → Binary64 → Binary64
  | .finite n m e, .finite n' m' e' =>
    ofRatio (n != n') (counted n m e * counted n' m' e') (scale * scale)
  | .nan, _ | _, .nan => .nan
  | x, y =>
    if x.isZero || y.isZero then .nan else .infinite (x.isNegative != y.isNegative)

def dividedBy : Binary64 → Binary64 → Binary64
  | .finite n m e, .finite n' m' e' =>
    let den := counted n' m' e'
    ofRatio (n != n') (counted n m e * den.sign) den.natAbs
  | .nan, _ | _, .nan | .infinite _, .infinite _ => .nan
  | .infinite a, y => .infinite (a != y.isNegative)
  | x, .infinite b => zero (x.isNegative != b)

/-- What is left of a number when another one, not zero, is taken off it as often as it goes; it
has the sign of the first one. -/
def leftOver : Binary64 → Binary64 → Binary64
  | .finite n m e, .finite n' m' e' =>
    ofRatio n ((counted n m e).tmod (counted n' m' e')) scale
  | .nan, _ | _, .nan | .infinite _, _ => .nan
  | x, .infinite _ => x

def floor? : Binary64 → Option Int
  | .finite n m e => some ((counted n m e).fdiv scale)
  | _ => none

def floored (x : Binary64) : Binary64 :=
  match x.floor? with
  | some n => ofRatio x.isNegative n 1
  | none => x

def one : Binary64 := ofQuotient false 1 1

/-- The whole quotient and the remainder of two numbers, the second one not zero. The remainder has
the sign of the second one. -/
def divided (x y : Binary64) : Binary64 × Binary64 :=
  let rest := x.leftOver y
  let quotient := (x.minus rest).dividedBy y
  let (rest, quotient) :=
    if rest.isZero then (zero y.isNegative, quotient)
    else if rest != .nan && y.isNegative != rest.isNegative then
      (rest.plus y, quotient.minus one)
    else (rest, quotient)
  if quotient.isZero then (zero (x.dividedBy y).isNegative, rest)
  else
    let whole := quotient.floored
    let half := ofQuotient false 1 2
    let gap := quotient.minus whole
    let above := !(gap == .nan) && !(gap.minus half).isNegative && !(gap.minus half).isZero
    (if above then whole.plus one else whole, rest)

/-- The integer nearest to a finite number, a tie going to the even one. -/
def nearest? : Binary64 → Option Int
  | .finite n m e =>
    let whole : Int := roundQuotient (counted false m e).natAbs scale
    some (if n then -whole else whole)
  | _ => none

def whole? : Binary64 → Option Int
  | .finite n m e => some ((counted n m e).tdiv scale)
  | _ => none

def ceiling? : Binary64 → Option Int
  | .finite n m e => some (-(-counted n m e).fdiv scale)
  | _ => none

end Understudy.Binary64
