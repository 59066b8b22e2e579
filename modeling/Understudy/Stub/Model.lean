import Understudy.Cpp.Declaration

/-! Test doubles as data, apart from how they are rendered or run. -/

set_option autoImplicit false

namespace Understudy

open Understudy.Cpp

inductive ReturnKind where
  | void
  | value
  | reference
  | interfaceReference
  | interfacePointer
  deriving DecidableEq, Repr

namespace ReturnKind

def keyword : ReturnKind → String
  | .void => "void"
  | .value => "value"
  | .reference => "reference"
  | .interfaceReference => "interface_reference"
  | .interfacePointer => "interface_pointer"

def returnsInterface : ReturnKind → Bool
  | .interfaceReference | .interfacePointer => true
  | _ => false

end ReturnKind

structure InstrumentedMethod where
  /-- The name under which a test reaches the method's slots, distinct within a double. -/
  accessor : String
  /-- The declaration the method comes from. -/
  declaring : String
  method : Method String
  returnType : SemanticType
  returnKind : ReturnKind
  nested : Option String
  deriving DecidableEq, Repr

namespace InstrumentedMethod

def name (m : InstrumentedMethod) : String := m.method.name

def mangled (m : InstrumentedMethod) : String := m.method.mangled

def isVoid (m : InstrumentedMethod) : Bool := m.returnKind == .void

def arity (m : InstrumentedMethod) : Nat := m.method.parameters.length

def callbackName (m : InstrumentedMethod) : String := "I" ++ m.accessor

def slotName (index : Nat) : String := "param_x" ++ toString index

/-- The type a slot keeps for a parameter; references are kept by address. -/
def storedType : SemanticType → SemanticType
  | .reference inner _ => .pointer inner false
  | t => t.stripConst

def slots (m : InstrumentedMethod) : List (String × SemanticType) :=
  m.method.parameters.zipIdx.map fun (p, index) => (slotName index, storedType p.type)

def behind : SemanticType → SemanticType
  | .pointer inner _ | .reference inner _ => inner
  | t => t

/-- The type of the static return slot, none for a void method. -/
def staticType? (m : InstrumentedMethod) : Option SemanticType :=
  match m.returnKind with
  | .void => none
  | .interfaceReference | .interfacePointer => some (.pointer (behind m.returnType) false)
  | .reference => some (behind m.returnType).stripConst
  | .value => some m.returnType.stripConst

end InstrumentedMethod

/-- An assignment that a double overrides without counting. -/
structure PassthroughMethod where
  declaring : String
  method : Method String
  returnType : SemanticType
  deriving DecidableEq, Repr

structure Stub where
  interface : String
  lead : String
  suffix : String
  methods : List InstrumentedMethod
  passthrough : List PassthroughMethod
  nested : List String
  unresolvedBases : List String
  deriving DecidableEq, Repr

namespace Stub

def name (s : Stub) : String := s.lead ++ s.suffix

def callbackSpace (s : Stub) : String := s.lead ++ "Callback" ++ s.suffix

def counterSpace (s : Stub) : String := s.lead ++ "Counter" ++ s.suffix

def staticSpace (s : Stub) : String := s.lead ++ "Static" ++ s.suffix

def internalSpace (s : Stub) : String := s.lead ++ "Internal" ++ s.suffix

def returning (s : Stub) : List InstrumentedMethod := s.methods.filter fun m => !m.isVoid

def nesting (s : Stub) : List InstrumentedMethod := s.methods.filter (·.nested.isSome)

/-- Look a method up by its accessor, or else by its mangled name. -/
def method? (s : Stub) (key : String) : Option InstrumentedMethod :=
  (s.methods.find? (·.accessor == key)).or (s.methods.find? (·.mangled == key))

def methodsNamed (s : Stub) (name : String) : List InstrumentedMethod :=
  s.methods.filter (·.name == name)

def nestedName (s : Stub) (interface : String) : String := s.lead ++ Text.flatName interface

end Stub
end Understudy
