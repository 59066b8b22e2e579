import Understudy.Cpp.Name
import Understudy.Cpp.Type
import Understudy.Text.Identifier
import Understudy.Value.Basic

/-! Declaration records.

A declaration names its bases and field types; what the names stand for is settled only when
all units have met in a symbol table. Field and parameter names are labels that nothing looks
up, so they are kept as the document gave them. `ν` is the type of the names of declarations and
methods, and `β` that of the names of bases: a record as a document wrote it may hold any value
there, and the analyses work on records whose names are texts.
-/

set_option autoImplicit false

namespace Understudy.Cpp

inductive DeclKind where
  | ordinary
  | interface
  deriving DecidableEq, Repr

def DeclKind.keyword : DeclKind → String
  | .ordinary => "class"
  | .interface => "interface"

inductive Visibility where
  | «public»
  | «protected»
  | «private»
  deriving DecidableEq, Repr

def Visibility.keyword : Visibility → String
  | .public => "public"
  | .protected => "protected"
  | .private => "private"

structure Parameter where
  type : SemanticType
  name : Value
  deriving DecidableEq, Repr

structure Method (ν : Type) where
  name : ν
  parameters : List Parameter
  /-- Constructors and destructors have none. -/
  returnType : Option SemanticType
  isPure : Bool
  isConst : Bool
  visibility : Visibility
  deriving DecidableEq, Repr

structure DataMember where
  name : Value
  type : SemanticType
  owner : Value
  deriving DecidableEq, Repr

structure Declaration (ν : Type) (β : Type := ν) where
  name : ν
  kind : DeclKind
  bases : List β
  methods : List (Method ν)
  fields : List DataMember
  /-- False for a forward declaration. -/
  isFull : Bool
  unit : Value
  deriving DecidableEq, Repr

def Parameter.canon (p : Parameter) : Parameter := ⟨p.type.canon, p.name.canon⟩

/-- The key under which overloads are told apart. -/
structure Signature where
  name : String
  parameters : List String
  isConst : Bool
  deriving DecidableEq, Repr

namespace Method

variable {ν μ : Type}

def mapName (f : ν → μ) (m : Method ν) : Method μ :=
  { name := f m.name
    parameters := m.parameters
    returnType := m.returnType
    isPure := m.isPure
    isConst := m.isConst
    visibility := m.visibility }

def mapName? (f : ν → Option μ) (m : Method ν) : Option (Method μ) :=
  (f m.name).map fun name => m.mapName fun _ => name

def spellings (m : Method ν) : List String := m.parameters.map (·.type.spelling)

def isSpelled (m : Method ν) : Bool := m.parameters.all (·.type.isSpelled)

def signature (m : Method String) : Signature := ⟨m.name, m.spellings, m.isConst⟩

def identifier (m : Method String) : String := Text.methodIdentifier m.name

/-- An identifier that tells overloads apart: `write(int, char)` gives `write_int_char`. -/
def mangled (m : Method String) : String :=
  "_".intercalate
    (m.identifier :: m.spellings.map Text.mangle ++ (if m.isConst then ["const"] else []))

def canon (m : Method ν) : Method ν :=
  { m with
    parameters := m.parameters.map Parameter.canon
    returnType := m.returnType.map SemanticType.canon }

end Method

def DataMember.canon (x : DataMember) : DataMember := ⟨x.name.canon, x.type.canon, x.owner.canon⟩

namespace Declaration

variable {ν μ β γ : Type}

def isInterface (d : Declaration ν β) : Bool := d.kind == .interface

def mapName (f : ν → μ) (d : Declaration ν β) : Declaration μ β :=
  { name := f d.name
    kind := d.kind
    bases := d.bases
    methods := d.methods.map (·.mapName f)
    fields := d.fields
    isFull := d.isFull
    unit := d.unit }

def mapName? (f : ν → Option μ) (d : Declaration ν β) : Option (Declaration μ β) := do
  let name ← f d.name
  let methods ← d.methods.mapM (·.mapName? f)
  return { name, methods, kind := d.kind, bases := d.bases, fields := d.fields
           isFull := d.isFull, unit := d.unit }

def withBases (d : Declaration ν β) (bases : List γ) : Declaration ν γ :=
  { bases
    name := d.name
    kind := d.kind
    methods := d.methods
    fields := d.fields
    isFull := d.isFull
    unit := d.unit }

def short (d : Declaration String β) : String := shortName d.name

def canon (d : Declaration ν β) : Declaration ν β :=
  { d with
    methods := d.methods.map Method.canon
    fields := d.fields.map DataMember.canon
    unit := .null }

/-- Whether two records of one name say the same, wherever they come from. -/
def sameContent [DecidableEq ν] [DecidableEq β] (a b : Declaration ν β) : Bool :=
  a.canon == b.canon

def label (d : Declaration String) : String := if d.isFull then d.kind.keyword else "forward"

end Declaration
end Understudy.Cpp
