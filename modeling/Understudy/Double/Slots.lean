import Understudy.Cpp.Primitive
import Understudy.Double.Heap
import Understudy.Number.Literal
import Understudy.Stub.Generator
import Understudy.Value.Shown

/-! Live doubles: a stub and what its methods' slots hold.

Every method has a counter and a callback slot, every method that returns something a slot for a
static answer. Slots are reached by accessor or by mangled name.
-/

set_option autoImplicit false

namespace Understudy

inductive CallFault where
  | unknownKey (written : String)
  | wrongArity (interface method : String) (expected given : Nat)
  | noInterface (key : String)
  /-- The callback has no such method and is no function. -/
  | deafCallback (written method : String)
  | noAttribute (name : String)
  | noMethod (stub name : String)
  | noOverload (name : String) (given : Nat) (accessors : List String)
  | failed
  | endless
  | generate (fault : GenerateFault)
  | slip (slip : Slip)
  deriving DecidableEq, Repr

def CallFault.message? : CallFault → Option String
  | .unknownKey written => some written
  | .wrongArity interface method expected given =>
    some (interface ++ "::" ++ method ++ " takes " ++ toString expected ++ " argument(s), "
      ++ toString given ++ " given")
  | .noInterface key => some (Text.quoted ("'" ++ key ++ "' does not return an interface"))
  | .deafCallback written method =>
    some ("callback " ++ written ++ " neither implements '" ++ method ++ "' nor is callable")
  | .noAttribute name => some name
  | .noMethod stub name => some (stub ++ " has no method '" ++ name ++ "'")
  | .noOverload name given accessors =>
    some ("cannot select an overload of '" ++ name ++ "' for " ++ toString given
      ++ " argument(s); use invoke() with one of " ++ ", ".intercalate accessors)
  | .generate (.interface fault) => some fault.message
  | .failed | .endless | .generate (.slip _) | .slip _ => none

instance : MonadLift (Except Slip) (Except CallFault) := ⟨fun r => r.mapError .slip⟩

open Understudy.Cpp

structure Counter where
  calls : Nat
  params : List Datum
  deriving DecidableEq, Repr

def Counter.fresh : Counter := ⟨0, []⟩

/-- What a callback does with the arguments of a call. Names are looked up when it is called. -/
inductive Action where
  | answer (d : Datum)
  | named (name : Value)
  | held (handle : Value)
  | argument (index : Value)
  | arguments
  | count (handle accessor : Value)
  | invoke (handle accessor : Value)
  | fail
  deriving DecidableEq, Repr

inductive Callback where
  | datum (d : Datum)
  | function (action : Action)
  | object (method : String) (action : Action)
  | inert
  deriving DecidableEq, Repr

def Callback.ofDatum? (d : Datum) : Option Callback :=
  if d.isNothing then none else some (.datum d)

/-- An object with a single method. What it is of and where it lies cannot be its methods, and only a
text names one. -/
def Callback.ofMethod (method : Value) (action : Action) : Except Slip Callback :=
  match method with
  | .text "__class__" | .text "__dict__" => .error .wrongType
  | .text "__weakref__" => .error .noMember
  | .text method => .ok (.object method action)
  | _ => .error .wrongType

/-- The answer a method gives while no callback is set, and the one it starts with. -/
structure StaticAnswer where
  current : Datum
  initial : Datum
  deriving DecidableEq, Repr

namespace InstrumentedMethod

def answerType? (m : InstrumentedMethod) : Option SemanticType :=
  match m.returnKind with
  | .void | .interfaceReference | .interfacePointer => none
  | .reference => some (behind m.returnType)
  | .value => some m.returnType

def initialAnswer (m : InstrumentedMethod) : Datum :=
  match m.answerType? with
  | some (.primitive name _) => .plain (primitiveDefault name)
  | _ => .nothing

/-- Whether the first answer is that of a builtin type whose name is no text. -/
def lacksAnswer (m : InstrumentedMethod) : Bool :=
  match m.answerType? with
  | some (.misnamed builtin ..) => builtin
  | _ => false

end InstrumentedMethod

namespace Stub

/-- The accessor a key stands for: itself if it is one, otherwise that of the last method with
this mangled name. -/
def slotKey (s : Stub) (key : String) : String :=
  if s.methods.any (·.accessor == key) then key
  else ((s.methods.reverse.find? (·.mangled == key)).map (·.accessor)).getD key

end Stub

inductive Space where
  | counter
  | callback
  | static
  deriving DecidableEq, Repr

structure Double where
  stub : Stub
  counters : Assoc Counter
  callbacks : Assoc (Option Callback)
  statics : Assoc StaticAnswer
  /-- The doubles handed out so far, by accessor. -/
  nested : Assoc Nat
  marks : Assoc Datum
  deriving DecidableEq, Repr

namespace Double

def fresh (stub : Stub) : Double where
  stub
  counters := stub.methods.map fun m => (m.accessor, .fresh)
  callbacks := stub.methods.map fun m => (m.accessor, none)
  statics := stub.returning.map fun m => (m.accessor, ⟨m.initialAnswer, m.initialAnswer⟩)
  nested := []
  marks := []

def ofStub (stub : Stub) : Except Slip Double :=
  if stub.methods.any (·.lacksAnswer) then .error .noMember else .ok (fresh stub)

def interface (d : Double) : String := d.stub.interface

def label (d : Double) : String :=
  "<TestDouble " ++ d.stub.name ++ " of " ++ d.stub.interface ++ ">"

def labelIn (doubles : List Double) (number : Nat) : String :=
  ((doubles[number]?).map label).getD ""

def accessors (d : Double) : Space → List String
  | .counter => d.counters.keys
  | .callback => d.callbacks.keys
  | .static => d.statics.keys

def has (d : Double) (space : Space) (key : String) : Bool :=
  (d.accessors space).contains (d.stub.slotKey key)

def counter? (d : Double) (key : String) : Option Counter := d.counters.get? (d.stub.slotKey key)

def callback? (d : Double) (key : String) : Option Callback :=
  (d.callbacks.get? (d.stub.slotKey key)).join

def static? (d : Double) (key : String) : Option StaticAnswer :=
  d.statics.get? (d.stub.slotKey key)

def setCounter (d : Double) (key : String) (c : Counter) : Double :=
  { d with counters := d.counters.set (d.stub.slotKey key) c }

def setCallback (d : Double) (key : String) (c : Option Callback) : Double :=
  { d with callbacks := d.callbacks.set (d.stub.slotKey key) c }

def setStatic (d : Double) (key : String) (answer : Datum) : Double :=
  match d.static? key with
  | some slot =>
    { d with statics := d.statics.set (d.stub.slotKey key) { slot with current := answer } }
  | none => d

def reset (d : Double) (space : Space) (key : String) : Double :=
  match space with
  | .counter => d.setCounter key .fresh
  | .callback => d.setCallback key none
  | .static =>
    match d.static? key with
    | some slot => d.setStatic key slot.initial
    | none => d

def resetSpace (d : Double) : Space → Double
  | .counter => { d with counters := d.counters.map fun (accessor, _) => (accessor, .fresh) }
  | .callback => { d with callbacks := d.callbacks.map fun (accessor, _) => (accessor, none) }
  | .static =>
    { d with
      statics := d.statics.map fun (accessor, slot) =>
        (accessor, { slot with current := slot.initial }) }

/-- Bring all slots back to their first state. Doubles handed out stay. -/
def resetAll (d : Double) : Double :=
  ((d.resetSpace .counter).resetSpace .callback).resetSpace .static

inductive Access where
  | item
  | attribute
  deriving DecidableEq, Repr

def thingOperations : List String :=
  ["__delattr__", "__dir__", "__eq__", "__format__", "__ge__", "__getattribute__", "__getstate__",
    "__gt__", "__init__", "__init_subclass__", "__le__", "__lt__", "__ne__", "__new__",
    "__reduce__", "__reduce_ex__", "__repr__", "__setattr__", "__sizeof__", "__str__",
    "__subclasshook__"]

/-- Names that mean a member of the space when asked for as an attribute: its operations, the
tables in which it keeps slots and mangled names, and what it tells of itself. -/
def spaceMembers : List String :=
  ["reset_all", "_slots", "_aliases", "__class__", "__contains__", "__dict__", "__doc__",
    "__getattr__", "__getitem__", "__hash__", "__iter__", "__len__", "__module__", "__weakref__"]
    ++ thingOperations

/-- Find a slot; as attributes, names that begin with an underscore are hidden. -/
def locate (d : Double) (space : Space) (access : Access) (key : String) :
    Except CallFault String :=
  match access with
  | .item => if d.has space key then .ok (d.stub.slotKey key) else .error (.slip .noKey)
  | .attribute =>
    if spaceMembers.contains key then .error (.slip .noMember)
    else if key.startsWith "_" || !d.has space key then .error (.noAttribute key)
    else .ok (d.stub.slotKey key)

/-- Find a slot by a key as it is given. Only texts are keys, and only texts name attributes. -/
def locateGiven (d : Double) (space : Space) (access : Access) (key : Value) :
    Except CallFault String :=
  match key, access with
  | .text key, _ => d.locate space access key
  | v, .item => .error (.slip (if v.isPlain then .noKey else .wrongType))
  | _, .attribute => .error (.slip .wrongType)

def hasGiven (d : Double) (space : Space) (key : Value) : Except Slip Bool :=
  match key with
  | .text key => .ok (d.has space key)
  | v => if v.isPlain then .ok false else .error .wrongType

def listening (d : Double) : Nat := d.callbacks.countP (·.2.isSome)

end Double

def parameterLead : List Char := "param_x".toList

def parameterNumber (name : String) : Except CallFault Nat :=
  let index := name.toList.drop parameterLead.length
  if !parameterLead.isPrefixOf name.toList || index.isEmpty || !index.all Text.isDigitLike then
    .error (.noAttribute name)
  else
    match Number.readInteger? index with
    | some n => .ok n.toNat
    | none => .error (.slip .badValue)

end Understudy
