/-! Double-precision numbers as exact binary fractions.

A finite number is its sign, a significand below 2^53 and a binary exponent. Decimals are read
to the nearest number, a tie going to the even significand, in exact integer arithmetic.
-/

set_option autoImplicit false

namespace Understudy

inductive Binary64 where
  /-- The value ± significand · 2 ^ exponent. -/
  | finite (negative : Bool) (significand : Nat) (exponent : Int)
  | infinite (negative : Bool)
  | nan
  deriving DecidableEq, Repr

namespace Binary64

def leastExponent : Int := -1074

def greatestExponent : Int := 971

def zero (negative : Bool) : Binary64 := .finite negative 0 leastExponent

def isZero : Binary64 → Bool
  | .finite _ m _ => m == 0
  | _ => false

def roundQuotient (num den : Nat) : Nat :=
  let q := num / den
  let r := num % den
  if 2 * r < den then q else if den < 2 * r then q + 1 else if q % 2 == 0 then q else q + 1

def scaledQuotient (num den : Nat) (exponent : Int) : Nat :=
  if 0 ≤ exponent then roundQuotient num (den * Nat.pow 2 exponent.toNat)
  else roundQuotient (num * Nat.pow 2 (-exponent).toNat) den

/-- The exponent at which the quotient of two positive numbers has 53 bits, or the least. -/
def quotientExponent (num den : Nat) : Int :=
  let estimate : Int := (num.log2 : Int) - den.log2 - 52
  let tooFew :=
    if 0 ≤ estimate then num < den * Nat.pow 2 (estimate.toNat + 52)
    else num * Nat.pow 2 (-estimate).toNat < den * Nat.pow 2 52
  max leastExponent (if tooFew then estimate - 1 else estimate)

def ofQuotient (negative : Bool) (num den : Nat) : Binary64 :=
  let exponent := quotientExponent num den
  let significand := scaledQuotient num den exponent
  let carried := significand == Nat.pow 2 53
  let significand := if carried then Nat.pow 2 52 else significand
  let exponent := if carried then exponent + 1 else exponent
  if greatestExponent < exponent then .infinite negative
  else .finite negative significand exponent

/-- The number nearest to ± digits · 10 ^ power. Powers far outside the range are settled
without computing them. -/
def ofDecimal (negative : Bool) (digits : Nat) (power : Int) : Binary64 :=
  if digits == 0 then zero negative
  else if 400 < power then .infinite negative
  else if power + digits.log2 < -400 then zero negative
  else if 0 ≤ power then ofQuotient negative (digits * Nat.pow 10 power.toNat) 1
  else ofQuotient negative digits (Nat.pow 10 (-power).toNat)

/-- Whether the number is at most one; no comparison holds of a number that is none. -/
def leOne : Binary64 → Bool
  | .finite true _ _ => true
  | .finite false m e => if 0 ≤ e then m * Nat.pow 2 e.toNat ≤ 1 else m ≤ Nat.pow 2 (-e).toNat
  | .infinite negative => negative
  | .nan => false

def gtOne : Binary64 → Bool
  | .nan => false
  | x => !x.leOne

end Binary64
end Understudy
