import Understudy.Double.Member.Percent
import Understudy.Double.Member.Set

/-! Data made by kind.

A kind takes the data that its own are made of: a number or its text, what yields the items, a text
and an encoding. Not all kinds make data.
-/

set_option autoImplicit false

namespace Understudy

/-- Whether a datum counts as true: nothing, zeros and what has no parts do not. -/
def Heap.truth (h : Heap) (d : Datum) : Bool :=
  match h.value? d with
  | some v => v.holds
  | none =>
    match h.length d with
    | .ok n => n != 0
    | .error _ => true

namespace Making

def numeral? : Datum → Option (List Char)
  | .plain (.text s) => some (s.toList.map Number.plainForm)
  | .bytes data => some (data.map fun b => Char.ofNat b.toNat)
  | _ => none

def certain {α : Type} : Option α → Except Slip α
  | some a => .ok a
  | none => .error .badValue

def integer (h : Heap) : List Datum → Except Slip Datum
  | [] => .ok (.int 0)
  | [d] =>
    match h.value? d, numeral? d with
    | some (.real x), _ => do return .int (← x.integerBy Binary64.whole?)
    | _, some s => do return .int (← certain (Number.readIntegerIn? 10 s))
    | _, none => do return .int (← d.integer)
  | [d, base] => do
    let base ← base.integer
    if base < 0 || base = 1 || 36 < base then throw .badValue
    match numeral? d with
    | some s => return .int (← certain (Number.readIntegerIn? base.toNat s))
    | none => throw .wrongType
  | _ => .error .wrongType

def real : List Datum → Work Datum
  | [] => pure (.plain (.real (.zero false)))
  | [d] => do
    match (← get).value? d, numeral? d with
    | some (.real _), _ => return d
    | _, some s => Member.realDatum (← certain (Number.readPlainReal? s))
    | _, none => Member.realDatum (← Member.realOf (← d.integer))
  | _ => throw .wrongType

def text (h : Heap) (label : Nat → String) : List Datum → Except Slip Datum
  | [] => .ok (.ofChars [])
  | [d] => .ok (.plain (.text (h.shown label d)))
  | d :: args => do
    let (encoding, way) ← Member.encodingArguments args
    match d, encoding with
    | .bytes [], _ => return .ofChars []
    | .bytes data, some e => return .ofChars (← Text.decode e way data)
    | .bytes _, none => throw .unknownEncoding
    | _, _ => throw .wrongType

def zeroBytes (n : Int) : Except Slip Datum :=
  if n < 0 then .error .badValue
  else if lengthLimit ≤ n then .error .tooLarge
  else .ok (.bytes (List.replicate n.toNat 0))

/-- Bytes: a text in an encoding, so many zeros, or those that a datum yields. -/
def bytes : List Datum → Work Datum
  | [] => pure (.bytes [])
  | [.bytes data] => pure (.bytes data)
  | [d] => do
    match d.integer with
    | .ok _ => zeroBytes (← d.count)
    | .error _ => return .bytes ((← Member.bytesOf d).map UInt8.ofNat)
  | d :: args => do
    let (encoding, way) ← Member.encodingArguments args
    match encoding with
    | some e => return .bytes (← Text.encode e way (← d.text))
    | none =>
      discard (d.text : Work (List Char))
      throw .unknownEncoding

def gathered (parts : Datum → Work (List Datum)) (cell : List Datum → Cell) :
    List Datum → Work Datum
  | [] => Work.allocate (cell [])
  | [d] => do Work.allocate (cell (← parts d))
  | _ => throw .wrongType

/-- A tuple; one that is there stays what it is. -/
def tuple (args : List Datum) : Work Datum := do
  match args with
  | [.cell address] =>
    match (← get).get? address with
    | some (.tuple _) => return .cell address
    | _ => gathered Work.parts .tuple args
  | args => gathered Work.parts .tuple args

def proxy (args : List Datum) : Work Datum := do
  match args with
  | [.cell address] =>
    match (← get).get? address with
    | some (.object _) => Work.allocate (.proxy address)
    | some (.proxy target) => Work.allocate (.proxy target)
    | _ => throw .wrongType
  | _ => throw .wrongType

def only (d : Datum) (args : List Datum) : Except Slip Datum := Member.alone d args

/-- Make a datum of a kind, by the name of the kind. Objects are made elsewhere. -/
def make (label : Nat → String) (kind : String) (args : List Datum) : Work Datum := do
  match kind with
  | "int" => Work.ask fun h => integer h args
  | "bool" =>
    match args with
    | [] => return .truth false
    | [d] => return .truth ((← get).truth d)
    | _ => throw .wrongType
  | "float" => real args
  | "str" => Work.ask fun h => text h label args
  | "bytes" => bytes args
  | "list" => gathered Work.parts .list args
  | "tuple" => tuple args
  | "set" => gathered Member.distinctParts .set args
  | "mappingproxy" => proxy args
  | "NoneType" => only .nothing args
  | "NotImplementedType" => only .unanswered args
  | "type" =>
    match args with
    | [d] => return .kind ((← get).kindName d)
    | _ => throw .wrongType
  | _ => throw .wrongType

end Making
end Understudy
