import Understudy.Double.Member.Basic
import Understudy.Number.Power
import Understudy.Template.Layout
import Understudy.Text.Encoding

/-! Members of integers. A truth value has those of the integers zero and one. -/

set_option autoImplicit false

namespace Understudy.Member

def byteOrder : List Datum → Except Slip Bool
  | [] => .ok true
  | [d] => do
    match String.ofList (← d.text) with
    | "big" => return true
    | "little" => return false
    | _ => throw .badValue
  | _ => .error .wrongType

def greatestLength : Nat := Nat.pow 2 63 - 34

def integerBytes (n : Int) (args : List Datum) : Except Slip Datum := do
  let length ←
    match args with
    | [] => pure 1
    | d :: _ => d.count
  let bigEnd ← byteOrder (args.drop 1)
  if length < 0 then throw .badValue
  if greatestLength < length then throw .overflow
  if lengthLimit ≤ length then throw .tooLarge
  if n < 0 || n ≠ 0 && 8 * length.toNat ≤ n.toNat.log2 then throw .overflow
  return .bytes (Text.orderedBytes bigEnd length.toNat n.toNat)

def byteOf (d : Datum) : Except Slip Nat := do
  let n ← d.integer
  if n < 0 || 256 ≤ n then throw .badValue else return n.toNat

/-- The bytes that a datum yields; a text yields none. -/
def bytesOf (d : Datum) : Work (List Nat) :=
  match d with
  | .plain _ => throw .wrongType
  | d => do (← Work.parts d).mapM fun d => byteOf d

def integerOfBytes (args : List Datum) : Work Int :=
  match args with
  | d :: order => do
    let bigEnd ← byteOrder order
    let bytes ← bytesOf d
    let ordered := if bigEnd then bytes else bytes.reverse
    return Int.ofNat (ordered.foldl (fun n b => 256 * n + b) 0)
  | [] => throw .wrongType

def realDatum (x : Binary64) : Work Datum := Work.place (.real x)

def realOf (n : Int) : Except Slip Binary64 :=
  match Binary64.ofInteger? n with
  | some x => .ok x
  | none => .error .overflow

def realQuotient (a b : Int) : Except Slip Binary64 :=
  if b = 0 then .error .divisionByZero
  else
    match Binary64.ofRatio ((a < 0) != (b < 0)) (a * b.sign) b.natAbs with
    | .infinite _ => .error .overflow
    | x => .ok x

def shiftedLeft (a b : Int) : Except Slip Int :=
  if b < 0 then .error .badValue
  else if a = 0 then .ok 0
  else if lengthLimit ≤ b then .error .tooLarge
  else .ok (a * Nat.pow 2 b.toNat)

def shiftedRight (a b : Int) : Except Slip Int :=
  if b < 0 then .error .badValue
  else .ok (if a.natAbs.log2 < b then (if a < 0 then -1 else 0) else a.fdiv (Nat.pow 2 b.toNat))

def integerPower (a b : Int) : Work Datum := do
  if 0 ≤ b then return .int (Int.pow a b.toNat)
  else realDatum (← Binary64.raised (← realOf a) (← realOf b))

def integerPair? : String → Option (Int → Int → Work Datum)
  | "add" => some fun a b => pure (.int (a + b))
  | "sub" => some fun a b => pure (.int (a - b))
  | "mul" => some fun a b => pure (.int (a * b))
  | "floordiv" => some fun a b =>
    if b = 0 then throw .divisionByZero else pure (.int (a.fdiv b))
  | "mod" => some fun a b => if b = 0 then throw .divisionByZero else pure (.int (a.fmod b))
  | "divmod" => some fun a b =>
    if b = 0 then throw .divisionByZero
    else Work.allocate (.tuple [.int (a.fdiv b), .int (a.fmod b)])
  | "truediv" => some fun a b => do realDatum (← realQuotient a b)
  | "lshift" => some fun a b => do return .int (← shiftedLeft a b)
  | "rshift" => some fun a b => do return .int (← shiftedRight a b)
  | "and" => some fun a b => pure (.int (Number.bitAnd a b))
  | "or" => some fun a b => pure (.int (Number.bitOr a b))
  | "xor" => some fun a b => pure (.int (Number.bitXor a b))
  | "pow" => some integerPower
  | _ => none

/-- What an operation on two operands does by its name; a name that leads with an `r` puts the
operand of the call first. -/
def pairwise? {α : Type} (find : String → Option (α → α → Work Datum)) (name : String) :
    Option (α → α → Work Datum) := do
  let word ← operationName? name
  match find word with
  | some f => some f
  | none =>
    if word.startsWith "r" then
      (find (String.ofList (word.toList.drop 1))).map fun f a b => f b a
    else none

def integer? : Datum → Option Int
  | .plain v => indexOf? v
  | _ => none

def integerOperation? (n : Int) (name : String) : Option Member :=
  (pairwise? integerPair? name).map fun f =>
    taking fun d =>
      match integer? d with
      | some m => f n m
      | none => pure .unanswered

/-- An integer raised to a power, modulo another one. A power below zero is one of the inverse. -/
def powerModulo (n power m : Int) : Except Slip Int :=
  if m = 0 then .error .badValue
  else if 0 ≤ power then
    .ok (Number.powerModulo (power.toNat.log2 + 1) (n.fmod m) power.toNat m)
  else
    match Number.inverse? n m with
    | some inverse =>
      .ok (Number.powerModulo (power.natAbs.log2 + 1) (inverse.fmod m) power.natAbs m)
    | none => .error .badValue

def powers (n : Int) (turn : Bool) : Member :=
  .operation fun args => do
    let (d, modulus) ←
      match args with
      | [d] => pure (d, Datum.nothing)
      | [d, m] => pure (d, m)
      | _ => throw .wrongType
    match integer? d, integer? modulus with
    | some p, some m =>
      if turn then return .int (← powerModulo p n m) else return .int (← powerModulo n p m)
    | some p, none =>
      if !modulus.isNothing then return .unanswered
      else if turn then integerPower p n
      else integerPower n p
    | none, _ => return .unanswered

/-- An integer rounded to a multiple of a power of ten, a tie going to the even multiple. -/
def roundedInteger (n : Int) (args : List Datum) : Except Slip Datum := do
  match args with
  | [] => return .int n
  | [d] =>
    let places ← d.integer
    if 0 ≤ places then return .int n
    if n.natAbs.log2 < -places then return .int 0
    let unit := Nat.pow 10 (-places).toNat
    let whole : Int := Binary64.roundQuotient n.natAbs unit * unit
    return .int (if n < 0 then -whole else whole)
  | _ => throw .wrongType

def hashModulus : Nat := Nat.pow 2 61 - 1

/-- The number by which an integer is found; one of them marks a failure and is not used. -/
def hashOf (negative : Bool) (n : Nat) : Int :=
  let hash : Int := if negative then -(n % hashModulus : Nat) else (n % hashModulus : Nat)
  if hash = -1 then -2 else hash

def integerForm? (n : Int) : String → Option Member
  | "__abs__" => some (fixed (.int n.natAbs))
  | "__neg__" => some (fixed (.int (-n)))
  | "__pos__" | "__int__" | "__index__" | "__trunc__" | "__floor__" | "__ceil__" =>
    some (fixed (.int n))
  | "__invert__" => some (fixed (.int (Number.turned n)))
  | "__bool__" => some (fixedTruth (n != 0))
  | "__float__" => some (acting do realDatum (← realOf n))
  | "__round__" => some (reading fun _ args => roundedInteger n args)
  | "__hash__" => some (fixed (.int (hashOf (n < 0) n.natAbs)))
  | "__getnewargs__" => some (tupling (alone [.int n]))
  | "__pow__" => some (powers n false)
  | "__rpow__" => some (powers n true)
  | _ => none

def ofInteger? (n : Int) (form : Int → Value) (name : String) : Option Member :=
  match name with
  | "real" | "numerator" => some (.data (.int n))
  | "imag" => some (.data (.int 0))
  | "denominator" => some (.data (.int 1))
  | "as_integer_ratio" => some (tupling (alone [.int n, .int 1]))
  | "bit_count" => some (fixed (.int ((Nat.toDigits 2 n.natAbs).count '1')))
  | "bit_length" => some (fixed (.int (if n = 0 then 0 else n.natAbs.log2 + 1)))
  | "conjugate" => some (fixed (.int n))
  | "from_bytes" => some (.operation fun args => do return .plain (form (← integerOfBytes args)))
  | "to_bytes" => some (reading fun _ args => integerBytes n args)
  | name => integerForm? n name <|> integerOperation? n name

def truthOperation? (b : Bool) (name : String) : Option Member := do
  let f ← truthPair? name
  return taking fun d =>
    match d with
    | .plain (.bool c) => pure (.truth (f b c))
    | d =>
      match integer? d, pairwise? integerPair? name with
      | some m, some g => g (if b then 1 else 0) m
      | _, _ => pure .unanswered
where
  truthPair? : String → Option (Bool → Bool → Bool)
    | "__and__" | "__rand__" => some (· && ·)
    | "__or__" | "__ror__" => some (· || ·)
    | "__xor__" | "__rxor__" => some (· != ·)
    | _ => none

def ofTruth? (b : Bool) (name : String) : Option Member :=
  truthOperation? b name <|> ofInteger? (if b then 1 else 0) (fun n => .bool (n != 0)) name

end Understudy.Member
