import Understudy.Value.Alike

/-! Types of fields, parameters and returns.

A type is a builtin or a named base under any number of pointer and reference layers. A record
can tag a base with a value that is no text: such a misnamed base has no spelling and stands for
no declaration.
-/

set_option autoImplicit false

namespace Understudy.Cpp

inductive SemanticType where
  | primitive (name : String) (isConst : Bool)
  | named (name : String) (isConst : Bool)
  /-- A base whose name is no text, tagged as builtin or as named. -/
  | misnamed (builtin : Bool) (name : Value) (isConst : Bool)
  | pointer (inner : SemanticType) (isConst : Bool)
  | reference (inner : SemanticType) (isConst : Bool)
  deriving DecidableEq, Repr

namespace SemanticType

def isConst : SemanticType → Bool
  | .primitive _ c | .named _ c | .misnamed _ _ c | .pointer _ c | .reference _ c => c

def setConst (isConst : Bool) : SemanticType → SemanticType
  | .primitive name _ => .primitive name isConst
  | .named name _ => .named name isConst
  | .misnamed builtin name _ => .misnamed builtin name isConst
  | .pointer inner _ => .pointer inner isConst
  | .reference inner _ => .reference inner isConst

def stripConst (t : SemanticType) : SemanticType := t.setConst false

def isIndirect : SemanticType → Bool
  | .pointer _ _ | .reference _ _ => true
  | _ => false

def isReference : SemanticType → Bool
  | .reference _ _ => true
  | _ => false

def isVoid : SemanticType → Bool
  | .primitive name _ => name == "void"
  | _ => false

/-- The declaration name behind all pointer and reference layers, none for builtin types. -/
def target? : SemanticType → Option String
  | .primitive _ _ | .misnamed .. => none
  | .named name _ => some name
  | .pointer inner _ | .reference inner _ => inner.target?

def misname? : SemanticType → Option (Bool × Value)
  | .primitive _ _ | .named _ _ => none
  | .misnamed builtin name _ => some (builtin, name)
  | .pointer inner _ | .reference inner _ => inner.misname?

def isSpelled (t : SemanticType) : Bool := t.misname?.isNone

def rename (f : String → String) : SemanticType → SemanticType
  | .primitive name c => .primitive name c
  | .named name c => .named (f name) c
  | .misnamed builtin name c => .misnamed builtin name c
  | .pointer inner c => .pointer (inner.rename f) c
  | .reference inner c => .reference (inner.rename f) c

/-- The spelling of a type. A const on a reference has none, and neither has a base that is
misnamed. -/
def spelling : SemanticType → String
  | .primitive name c | .named name c => (if c then "const " else "") ++ name
  | .misnamed _ _ _ => ""
  | .pointer inner c => inner.spelling ++ "*" ++ (if c then " const" else "")
  | .reference inner _ => inner.spelling ++ "&"

def canon : SemanticType → SemanticType
  | .primitive name c => .primitive name c
  | .named name c => .named name c
  | .misnamed builtin name c => .misnamed builtin name.canon c
  | .pointer inner c => .pointer inner.canon c
  | .reference inner c => .reference inner.canon c

@[simp] theorem isConst_setConst (c : Bool) (t : SemanticType) : (t.setConst c).isConst = c := by
  cases t <;> rfl

@[simp] theorem isSpelled_setConst (c : Bool) (t : SemanticType) :
    (t.setConst c).isSpelled = t.isSpelled := by
  cases t <;> rfl

end SemanticType
end Understudy.Cpp
