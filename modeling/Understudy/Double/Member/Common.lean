import Understudy.Double.Quoted
import Understudy.Double.Member.Basic
import Understudy.Double.Likeness

/-! Members that all data have: comparisons and texts.

A comparison with a datum of another family is left to that datum.
-/

set_option autoImplicit false

namespace Understudy

inductive Family where
  | nothing
  | integer
  | real
  | text
  | bytes
  | list
  | tuple
  | object
  | view
  | set
  | other
  deriving DecidableEq, Repr

namespace Family

/-- Whether data of a family compare themselves with those of another one. -/
def answers : Family → Family → Bool
  | .real, .integer | .view, .set => true
  | .other, _ => false
  | a, b => a == b

def isOrdered : Family → Bool
  | .nothing | .object | .other => false
  | _ => true

end Family

namespace Heap

variable (h : Heap)

def family : Datum → Family
  | .plain .null => .nothing
  | .plain (.bool _) | .plain (.int _) => .integer
  | .plain (.real _) => .real
  | .plain (.text _) => .text
  | .bytes _ => .bytes
  | .cell address =>
    match h.get? address with
    | some (.list _) => .list
    | some (.tuple _) => .tuple
    | some (.object _) => .object
    | some (.set _) => .set
    | some (.view _ face) => if face == .values then .other else .view
    | some .nan => .real
    | some (.cursor _) | some (.proxy _) | some (.caller ..) | none => .other
  | _ => .other

/-- Whether a datum equals another one, if it can tell. A number that is none equals nothing. -/
def equality (d e : Datum) : Except Slip (Option Bool) :=
  if !(h.family d).answers (h.family e) then .ok (if d == e then some true else none)
  else
    match h.value? d, h.value? e with
    | some a, some b => .ok (some (a.equal b))
    | _, _ => (h.alike d e).map some

def standing (r : Relation) (d e : Datum) : Except Slip (Option Bool) :=
  let family := h.family d
  if family.isOrdered && family.answers (h.family e) then (h.ordered r d e).map some else .ok none

end Heap

namespace Member

def told : Option Bool → Datum
  | some b => .truth b
  | none => .unanswered

def comparing (f : Heap → Datum → Except Slip (Option Bool)) : Member :=
  taking fun e => Work.ask fun h => do return told (← f h e)

def comparison? (d : Datum) : String → Option Member
  | "__eq__" => some (comparing fun h e => h.equality d e)
  | "__ne__" => some (comparing fun h e => do return (← h.equality d e).map (!·))
  | "__lt__" => some (comparing fun h e => h.standing .less d e)
  | "__le__" => some (comparing fun h e => h.standing .atMost d e)
  | "__gt__" => some (comparing fun h e => h.standing .greater d e)
  | "__ge__" => some (comparing fun h e => h.standing .atLeast d e)
  | _ => none

def textual? (label : Nat → String) (d : Datum) : String → Option Member
  | "__repr__" => some (reading fun h args => alone (.plain (.text (h.quoted label d))) args)
  | "__str__" => some (reading fun h args => alone (.plain (.text (h.shown label d))) args)
  | "__format__" =>
    some (taking fun spec => do
      let spec ← spec.text
      return .ofChars (← Work.ask fun h => h.layOut label spec d))
  | _ => none

/-- Members that have nothing to do with the datum they belong to. Where a datum is found depends
on the run, and so does the number by which it is. -/
def idle? : String → Option Member
  | "__init_subclass__" => some (fixed .nothing)
  | "__subclasshook__" => some (.operation fun _ => pure .unanswered)
  | "__new__" => some (.operation fun _ => throw .wrongType)
  | "__hash__" => some (fixed (.int 0))
  | "__getattribute__" => some .inquiry
  | _ => none

/-- A name that an attribute is asked for by; the kind of a datum stays what it is. -/
def attributeName (d : Datum) : Except Slip String := do
  let name := String.ofList (← d.text)
  if name == "__class__" then throw .wrongType else return name

/-- Members of a thing of which only its text is known. It is made in a way of its own, and whatever
is put on it has no effect. -/
def ofThing? (text : String) : String → Option Member
  | "__repr__" | "__str__" => some (fixed (.plain (.text text)))
  | "__format__" =>
    some (taking fun spec => do
      if (← spec.text).isEmpty then return .plain (.text text) else throw .wrongType)
  | "__eq__" | "__ne__" | "__lt__" | "__le__" | "__gt__" | "__ge__" =>
    some (taking fun _ => pure .unanswered)
  | "__dict__" | "__module__" => some .description
  | "__class__" | "__init__" => some (.operation fun _ => throw .wrongType)
  | "__setattr__" =>
    some (.operation fun args =>
      match args with
      | [name, _] => do
        discard (attributeName name : Work String)
        return .nothing
      | _ => throw .wrongType)
  | "__delattr__" =>
    some (taking fun name => do
      discard (attributeName name : Work String)
      throw .noMember)
  | name => idle? name

def unchanging? : String → Option Member
  | "__setattr__" =>
    some (.operation fun args =>
      match args with
      | [name, _] => do
        discard (attributeName name : Work String)
        throw .noMember
      | _ => throw .wrongType)
  | "__delattr__" =>
    some (taking fun name => do
      discard (attributeName name : Work String)
      throw .noMember)
  | "__init__" => some (.operation fun _ => pure .nothing)
  | "__reduce__" => some (.operation fun _ => throw .wrongType)
  | "__getstate__" => some (fixed .nothing)
  | _ => none

def common? (label : Nat → String) (d : Datum) (name : String) : Option Member :=
  comparison? d name <|> textual? label d name <|> idle? name

end Member
end Understudy
