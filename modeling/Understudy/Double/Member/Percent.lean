import Understudy.Double.Quoted
import Understudy.Double.Member.Bytes
import Understudy.Double.Member.Real
import Understudy.Template.Percent

/-! Templates with percent signs filled with data.

A tuple fills a template with its items, any other datum with itself. Names are looked up in a datum
that has something under keys; then its items need not be used up.
-/

set_option autoImplicit false

namespace Understudy

open Template

structure Supply where
  names : Option Datum
  data : List Datum
  deriving DecidableEq, Repr

structure PercentScript where
  script : Script
  isMapping : Datum → Bool
  size : Nat
  spell : (Datum → List Char) → (Datum → List Char) → Char → Datum →
    Option (Except Slip (List Char))

namespace PercentScript

def text : PercentScript where
  script := .text
  isMapping := fun d => d matches .bytes _
  size := 0x110000
  spell := fun shown quoted letter d =>
    match letter with
    | 's' => some (.ok (shown d))
    | 'r' => some (.ok (quoted d))
    | 'a' => some (.ok (Text.asciiOnly (quoted d)))
    | _ => none

def bytes : PercentScript where
  script := .bytes
  isMapping := fun _ => false
  size := 256
  spell := fun _ quoted letter d =>
    match letter with
    | 's' | 'b' => some d.byteText
    | 'r' | 'a' => some (.ok (Text.asciiOnly (quoted d)))
    | _ => none

variable (k : PercentScript) (h : Heap) (label : Nat → String)

def supply (d : Datum) : Supply :=
  match d with
  | .cell address =>
    match h.get? address with
    | some (.tuple items) => ⟨none, items⟩
    | some (.list _) | some (.object _) | some (.proxy _) => ⟨some d, [d]⟩
    | _ => ⟨none, [d]⟩
  | d => ⟨if k.isMapping d then some d else none, [d]⟩

/-- What takes data from a supply and may slip. -/
abbrev Filling := StateT Supply (Except Slip)

def next : Filling Datum := do
  match (← get).data with
  | d :: rest =>
    modify fun s => { s with data := rest }
    return d
  | [] => throw .wrongType

def choose (name : BracketedName) : Filling Unit := do
  match (← get).names, name with
  | none, _ => throw .wrongType
  | some _, .unclosed => throw .badValue
  | some names, .closed name =>
    let d ← (h.part names (k.script.write name) : Except Slip Datum)
    modify fun s => { s with data := [d] }

def measured (bits : Nat) : Measure → Filling Int
  | .count n => pure n
  | .excessive => throw .badValue
  | .asked => do (← next).word bits

/-- The integer that a conversion shows; those in bases other than ten show no real numbers. -/
def integerOf (letter : Char) (d : Datum) : Except Slip Int :=
  match h.value? d with
  | some (.real x) =>
    if "oxX".toList.contains letter then .error .wrongType else x.integerBy Binary64.whole?
  | _ => d.integer

def charOf (d : Datum) : Except Slip (List Char) :=
  match k.script.read d with
  | .ok [c] => .ok [c]
  | .ok _ => .error .wrongType
  | .error _ => do
    let n ← d.integer
    if n < 0 || k.size ≤ n then throw .overflow else return [Char.ofNat n.toNat]

def layOut (style : Style) (letter : Char) (d : Datum) : Except Slip (List Char) :=
  let shown (d : Datum) : List Char := (h.shown label d).toList
  let quoted (d : Datum) : List Char := (h.quoted label d).toList
  match k.spell shown quoted letter d with
  | some text => return style.text (← text)
  | none =>
    if "diuoxX".toList.contains letter then do return style.integer letter (← integerOf h letter d)
    else if "eEfFgG".toList.contains letter then do
      match ← Member.real? h d with
      | some x => return style.real letter x
      | none => throw .wrongType
    else if letter == 'c' then do return { style with precision := none }.text (← k.charOf d)
    else .error .badValue

def convert (c : Conversion) : Filling (List Char) := do
  if let some name := c.name then k.choose h name
  let width ← (c.width.getD (.count 0) |> measured 64)
  let precision ← c.precision.mapM (measured 32)
  let style : Style :=
    { flags := { c.flags with left := c.flags.left || width < 0 }
      width := width.natAbs
      precision := precision.map Int.toNat }
  match c.letter with
  | none => throw .badValue
  | some '%' => return ['%']
  | some letter =>
    let d ← next
    if lengthLimit ≤ style.width then throw .tooLarge
    (k.layOut h label style letter d : Except Slip (List Char))

def fill (template : List Char) (d : Datum) : Except Slip Datum := do
  let work : Filling (List (List Char)) := (percentPieces template).mapM fun piece =>
    match piece with
    | .literal text => pure text
    | .conversion c => k.convert h label c
  let (texts, rest) ← work.run (k.supply h d)
  if rest.names.isNone && !rest.data.isEmpty then throw .wrongType
  return k.script.write texts.flatten

end PercentScript

def Member.percent? (k : PercentScript) (label : Nat → String) (s : List Char) (d : Datum) :
    String → Option Member
  | "__mod__" => some (taking fun e => Work.ask fun h => k.fill h label s e)
  | "__rmod__" =>
    some (taking fun e =>
      match k.script.read e with
      | .ok text => Work.ask fun h => k.fill h label text d
      | .error _ => pure .unanswered)
  | _ => none

end Understudy
