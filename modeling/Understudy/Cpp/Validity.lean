import Understudy.Cpp.Declaration
import Understudy.Value.Shown

/-! Special members, and the records that no front end should produce.

An interface is a class whose ordinary methods are all pure virtual. Constructors, destructors
and assignments are special and do not count.
-/

set_option autoImplicit false

namespace Understudy.Cpp

inductive SpecialMember where
  | constructor
  | copyConstructor
  | destructor
  | assignment
  deriving DecidableEq, Repr

def SpecialMember.keyword : SpecialMember → String
  | .constructor => "constructor"
  | .copyConstructor => "copy_constructor"
  | .destructor => "destructor"
  | .assignment => "assignment"

/-- Whether the parameters are one reference to the declaration itself. -/
def isCopyParameter (owner : String) : List Parameter → Bool
  | [p] =>
    p.type.isReference
      && (p.type.target? == some (shortName owner) || p.type.target? == some owner)
  | _ => false

def specialMember? (owner : String) (m : Method String) : Option SpecialMember :=
  if m.name == "operator=" then some .assignment
  else if "~".toList.isPrefixOf m.name.toList then some .destructor
  else if m.name == shortName owner && m.returnType.isNone then
    some (if isCopyParameter owner m.parameters then .copyConstructor else .constructor)
  else none

def isOrdinary (owner : String) (m : Method String) : Bool := (specialMember? owner m).isNone

def mayLackReturn (owner : String) (m : Method String) : Bool :=
  match specialMember? owner m with
  | some .constructor | some .copyConstructor | some .destructor => true
  | _ => false

def inferKind (name : String) (methods : List (Method String)) : DeclKind :=
  let ordinary := methods.filter (isOrdinary name)
  if !ordinary.isEmpty && ordinary.all (·.isPure) then .interface else .ordinary

inductive Malformation where
  | forwardMembers
  | strayField (field owner : Value)
  | noReturn (method : String)
  | notPure (method : String)
  | pureOutsideInterface (method : String)
  deriving DecidableEq, Repr

def Malformation.message : Malformation → String
  | .forwardMembers => "forward declaration carries members"
  | .strayField field owner => "field '" ++ field.shown ++ "' is owned by '" ++ owner.shown ++ "'"
  | .noReturn method => "method '" ++ method ++ "' has no return type"
  | .notPure method => "interface method '" ++ method ++ "' is not pure virtual"
  | .pureOutsideInterface method => "pure virtual method '" ++ method ++ "' outside an interface"

section

variable {β : Type}

def methodFault? (d : Declaration String β) (m : Method String) : Option Malformation :=
  if m.returnType.isNone && !mayLackReturn d.name m then some (.noReturn m.name)
  else if !isOrdinary d.name m then none
  else if d.isInterface && !m.isPure then some (.notPure m.name)
  else if !d.isInterface && m.isPure then some (.pureOutsideInterface m.name)
  else none

def fieldFault? (d : Declaration String β) : Option Malformation :=
  (d.fields.find? fun f => f.owner != .text d.name).map fun f => .strayField f.name f.owner

def forwardFault? (d : Declaration String β) : Option Malformation :=
  if !d.isFull && !(d.methods.isEmpty && d.fields.isEmpty) then some .forwardMembers else none

/-- The first thing wrong with a record. -/
def malformation? (d : Declaration String β) : Option Malformation :=
  (forwardFault? d).or ((fieldFault? d).or (d.methods.findSome? (methodFault? d)))

end

end Understudy.Cpp
