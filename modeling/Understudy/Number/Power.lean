import Understudy.Number.Arithmetic
import Understudy.Value.Alike

/-! Powers of numbers, and the bits of integers. A negative integer has ones without end before its
bits. -/

set_option autoImplicit false

namespace Understudy

namespace Binary64

def exponentBias : Int := 1075

def toFloat : Binary64 → Float
  | .finite negative m e =>
    let body := if m < Nat.pow 2 52 then m
      else (e + exponentBias).toNat * Nat.pow 2 52 + (m - Nat.pow 2 52)
    Float.ofBits (UInt64.ofNat (body + if negative then Nat.pow 2 63 else 0))
  | .infinite negative => if negative then -1.0 / 0.0 else 1.0 / 0.0
  | .nan => 0.0 / 0.0

def ofFloat (x : Float) : Binary64 :=
  let bits := x.toBits.toNat
  let negative := Nat.pow 2 63 ≤ bits
  let fraction := bits % Nat.pow 2 52
  let stored := bits / Nat.pow 2 52 % Nat.pow 2 11
  if stored = 2047 then if fraction = 0 then .infinite negative else .nan
  else if stored = 0 then .finite negative fraction leastExponent
  else .finite negative (fraction + Nat.pow 2 52) (stored - exponentBias)

def isFinite : Binary64 → Bool
  | .finite .. => true
  | _ => false

/-- A number raised to a power. A negative number has no real powers with a fraction. -/
def raised (x y : Binary64) : Except Slip Binary64 :=
  if x.isZero && y.isFinite && y.isNegative && !y.isZero then .error .divisionByZero
  else if x.isFinite && y.isFinite && x.isNegative && !x.isZero && y.integer?.isNone then
    .error .wrongType
  else
    let answer := ofFloat (x.toFloat.pow y.toFloat)
    if x.isFinite && y.isFinite && !answer.isFinite then .error .overflow else .ok answer

end Binary64

namespace Number

/-- An integer raised to a power, modulo another one that is not zero; the fuel bounds the number
of bits of the power. -/
def powerModulo : Nat → Int → Nat → Int → Int
  | 0, _, _, m => (1 : Int).fmod m
  | fuel + 1, n, power, m =>
    if power = 0 then (1 : Int).fmod m
    else
      let half := powerModulo fuel ((n * n).fmod m) (power / 2) m
      if power % 2 = 0 then half else (half * n).fmod m

def inverse? (n m : Int) : Option Int :=
  let rec search : Nat → Int → Int → Int → Int → Option Int
    | 0, _, _, _, _ => none
    | fuel + 1, a, b, x, y =>
      if b = 0 then if a = 1 then some x else none
      else search fuel b (a % b) y (x - a / b * y)
  search (2 * m.natAbs.log2 + 4) (n % m.natAbs) m.natAbs 1 0

def turned (n : Int) : Int := -n - 1

def bitAnd (a b : Int) : Int :=
  match decide (a < 0), decide (b < 0) with
  | false, false => (a.toNat &&& b.toNat : Nat)
  | false, true => (a.toNat - (a.toNat &&& (turned b).toNat) : Nat)
  | true, false => (b.toNat - (b.toNat &&& (turned a).toNat) : Nat)
  | true, true => turned ((turned a).toNat ||| (turned b).toNat : Nat)

def bitOr (a b : Int) : Int := turned (bitAnd (turned a) (turned b))

def bitXor (a b : Int) : Int := bitAnd (bitOr a b) (turned (bitAnd a b))

end Number
end Understudy
