import Understudy.Double.Exhibit.Access
import Understudy.Double.Quoted
import Understudy.Template.Field

/-! Templates filled with data. -/

set_option autoImplicit false

namespace Understudy

inductive Template.Source where
  | positions (args : List Datum)
  /-- Names are looked up in a datum, and positions mean nothing. -/
  | names (d : Datum)
  deriving DecidableEq, Repr

namespace Bench

open Template

variable (b : Bench)

def exhibitText (e : Exhibit) : Except Slip (List Char) :=
  (e.shown (b.heap.shown b.label) b.quoted).map String.toList

def exhibitQuoted (e : Exhibit) : List Char := (e.quoted b.quoted).toList

def start (source : Source) (origin : Origin) : Except Slip Datum :=
  match source, origin with
  | .positions args, .position index =>
    match args[index]? with
    | some d => .ok d
    | none => .error .outOfRange
  | .positions _, .name _ => .error .noKey
  | .names _, .position _ => .error .badValue
  | .names d, .name name => b.heap.part d (.ofChars name)

def step (e : Exhibit) : Step → Except CallFault Exhibit
  | .attribute name => do b.attributeOf (← b.resolved e) (String.ofList name)
  | .item key => do
    let e ← b.resolved e
    match ← wholeNumber key with
    | some index => b.itemOf e (.int index)
    | none => b.itemOf e (.ofChars key)
  | .malformed => .error (.slip .badValue)

def convert (e : Exhibit) : Option Char → Except Slip Exhibit
  | none => .ok e
  | some 's' => do return .datum (.ofChars (← b.exhibitText e))
  | some 'r' => .ok (.datum (.ofChars (b.exhibitQuoted e)))
  | some 'a' => .ok (.datum (.ofChars (Text.asciiOnly (b.exhibitQuoted e))))
  | some _ => .error .badValue

/-- Lay an exhibit out; only texts, numbers and choices take a specification. -/
def layOut (spec : List Char) (e : Exhibit) : Except Slip (List Char) :=
  match e with
  | .datum d => b.heap.layOut b.label spec d
  | .choice .. => do layOutText (← Spec.read spec) (← b.exhibitText e)
  | e => if spec.isEmpty then b.exhibitText e else .error .wrongType

/-- Fill a template, going on with a numbering. Specifications may hold fields, and these no
fields in theirs: the depth bounds it. -/
def fillFrom (source : Source) :
    Nat → Numbering → List Char → Except CallFault (Numbering × List Char)
  | 0, _, _ => .error (.slip .badValue)
  | depth + 1, numbering, template =>
    (pieces template).foldlM (fun (numbering, filled) piece =>
      match piece with
      | .literal text => .ok (numbering, filled ++ text)
      | .malformed => .error (.slip .badValue)
      | .field f => do
        let (first, steps) := f.path
        let (numbering, origin) ← numbering.origin first
        let e ← steps.foldlM b.step (.datum (← b.start source origin))
        let e ← b.convert (← b.resolved e) f.conversion
        let (numbering, spec) ←
          if f.spec.contains '\x7b' then fillFrom source depth numbering f.spec
          else pure (numbering, f.spec)
        return (numbering, filled ++ (← b.layOut spec e)))
      (numbering, [])

def fill (source : Source) (template : List Char) : Except CallFault (List Char) :=
  (b.fillFrom source 2 .undecided template).map (·.2)

end Bench
end Understudy
