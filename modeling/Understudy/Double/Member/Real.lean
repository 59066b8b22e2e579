import Understudy.Double.Member.Integer
import Understudy.Number.Hexadecimal
import Understudy.Number.Shortest

/-! Members of real numbers. -/

set_option autoImplicit false

namespace Understudy

namespace Binary64

def integerBy (make : Binary64 → Option Int) (x : Binary64) : Except Slip Int :=
  match make x, x with
  | some n, _ => .ok n
  | none, .nan => .error .badValue
  | none, _ => .error .overflow

/-- A number rounded to so many decimals. Far from its digits nothing is left of it, or nothing
changes. -/
def roundedAt (x : Binary64) (places : Int) : Except Slip Binary64 :=
  match x with
  | .finite negative m e =>
    if 323 < places then .ok x
    else if places < -308 || m = 0 then .ok (zero negative)
    else
      match ofDecimal negative (scaled m e places) (-places) with
      | .infinite _ => .error .overflow
      | x => .ok x
  | x => .ok x

def hash? : Binary64 → Option Int
  | .finite negative m e =>
    some (Member.hashOf negative (m * Nat.pow 2 (e % 61).toNat))
  | .infinite negative => some (if negative then -314159 else 314159)
  | .nan => none

end Binary64

namespace Member

def real? (h : Heap) (d : Datum) : Except Slip (Option Binary64) :=
  match h.value? d with
  | some (.real x) => .ok (some x)
  | some v =>
    match indexOf? v with
    | some n => (realOf n).map some
    | none => .ok none
  | none => .ok none

def nonzero (f : Binary64 → Binary64 → Work Datum) (x y : Binary64) : Work Datum :=
  if y.isZero then throw .divisionByZero else f x y

def realPair? : String → Option (Binary64 → Binary64 → Work Datum)
  | "add" => some fun x y => realDatum (x.plus y)
  | "sub" => some fun x y => realDatum (x.minus y)
  | "mul" => some fun x y => realDatum (x.product y)
  | "truediv" => some (nonzero fun x y => realDatum (x.dividedBy y))
  | "floordiv" => some (nonzero fun x y => realDatum (x.divided y).1)
  | "mod" => some (nonzero fun x y => realDatum (x.divided y).2)
  | "divmod" =>
    some (nonzero fun x y => do
      let quotient ← realDatum (x.divided y).1
      let rest ← realDatum (x.divided y).2
      Work.allocate (.tuple [quotient, rest]))
  | "pow" => some fun x y => do realDatum (← x.raised y)
  | _ => none

def realOperation? (x : Binary64) (name : String) : Option Member :=
  (pairwise? realPair? name).map fun f =>
    .operation fun args => do
      let d ←
        match args with
        | [d] => pure d
        | [d, modulus] =>
          if name != "__pow__" && name != "__rpow__" || !modulus.isNothing then throw .wrongType
          pure d
        | _ => throw .wrongType
      match ← Work.ask fun h => real? h d with
      | some y => f x y
      | none => return .unanswered

def wholeOf (x : Binary64) (make : Binary64 → Option Int) : Member :=
  acting do return .int (← x.integerBy make)

def roundedReal (x : Binary64) (args : List Datum) : Work Datum := do
  let places ←
    match args with
    | [] => pure .nothing
    | [d] => pure d
    | _ => throw .wrongType
  if places.isNothing then return .int (← x.integerBy Binary64.nearest?)
  else realDatum (← x.roundedAt (← places.integer))

def realForm? (d : Datum) (x : Binary64) : String → Option Member
  | "__abs__" => some (acting (realDatum x.magnitude))
  | "__neg__" => some (acting (realDatum x.negated))
  | "__pos__" | "__float__" => some (fixed d)
  | "__int__" | "__trunc__" => some (wholeOf x Binary64.whole?)
  | "__floor__" => some (wholeOf x Binary64.floor?)
  | "__ceil__" => some (wholeOf x Binary64.ceiling?)
  | "__bool__" => some (fixedTruth !x.isZero)
  | "__round__" => some (.operation (roundedReal x))
  | "__hash__" => x.hash?.map fun n => fixed (.int n)
  | "__getnewargs__" => some (tupling (alone [d]))
  | _ => none

def ofReal? (d : Datum) (x : Binary64) (name : String) : Option Member :=
  match name with
  | "real" => some (.data d)
  | "imag" => some (.data (.plain (.real (.zero false))))
  | "as_integer_ratio" =>
    some (tupling fun args => do
      alone () args
      match x, x.quotient? with
      | _, some (num, den) => return [.int num, .int den]
      | .nan, none => throw .badValue
      | _, none => throw .overflow)
  | "conjugate" => some (fixed d)
  | "fromhex" => some (taking fun d => do realDatum (← Binary64.ofHex (← d.text)))
  | "hex" => some (fixed (.plain (.text x.hexText)))
  | "is_integer" => some (fixedTruth x.integer?.isSome)
  | name => realForm? d x name <|> realOperation? x name

end Member
end Understudy
