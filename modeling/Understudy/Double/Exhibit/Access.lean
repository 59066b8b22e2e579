import Understudy.Double.Exhibit.Record
import Understudy.Double.Member

/-! What lies under a name, a key or an index of an exhibit. -/

set_option autoImplicit false

namespace Understudy

def Stub.aliases (s : Stub) : Assoc String :=
  let accessors := s.methods.map (·.accessor)
  (s.methods.filter fun m => !accessors.contains m.mangled).foldl
    (fun found m => found.set m.mangled m.accessor) []

def Double.slotsIn (d : Double) : Space → List (String × Exhibit)
  | .counter => d.counters.map fun (accessor, c) => (accessor, .ofCounter c)
  | .callback => d.callbacks.map fun (accessor, c) => (accessor, .ofCallbackSlot c)
  | .static => d.statics.map fun (accessor, a) => (accessor, .ofStatic a)

namespace Exhibit

def reflection? (home kind : String) (owner : Exhibit) : String → Option Exhibit
  | "__class__" => some (.category home kind)
  | "__module__" => if home == "builtins" then none else some (text home)
  | "__weakref__" => if home == "builtins" then none else some nothing
  | name => if Double.thingOperations.contains name then some (.operation kind name owner) else none

def counterWords : String := "CallCounter(call_counter: 'int' = 0, params: 'tuple' = ())"

def counterReflection? (owner : Exhibit) : String → Option Exhibit
  | "__doc__" => some (text counterWords)
  | "__annotations__" => some (.table [("call_counter", text "int"), ("params", text "tuple")])
  | "__dataclass_fields__" =>
    some (.table [("call_counter", field), ("params", field)])
  | "__dataclass_params__" => some (.thing "_DataclassParams" "<_DataclassParams object>" [])
  | "__getattr__" => some (.operation RecordKind.counter.label "__getattr__" owner)
  | _ => none
where
  field : Exhibit := .thing "Field" "<Field object>" []

def recordAttribute (kind : RecordKind) (parts hidden derived : List (String × Exhibit))
    (owner : Exhibit) (name : String) : Except CallFault Exhibit :=
  let own : Option Exhibit :=
    match name with
    | "__dict__" => some (.table (parts ++ hidden))
    | "__match_args__" => some (texts ((parts ++ hidden).map (·.1)))
    | "__hash__" =>
      some (if kind.isSlot then nothing else .operation kind.label "__hash__" owner)
    | name =>
      if kind.operations.contains name then some (.operation kind.label name owner) else none
  let reflected :=
    if kind == .counter then counterReflection? owner name else none
  match Assoc.get? (parts ++ hidden ++ derived) name <|> own <|> reflected
    <|> reflection? kind.home kind.label owner name with
  | some e => .ok e
  | none =>
    match kind, Assoc.get? parts "params" with
    | .counter, some (.tuple params) => do
      return (params[← parameterNumber name]?).getD nothing
    | _, _ => .error (.slip .noMember)

def choiceAttribute (kind name keyword : String) (derived : List (String × Exhibit))
    (asked : String) : Except CallFault Exhibit :=
  let home := if kind == "ReturnKind" then RecordKind.modelHome else RecordKind.declarationHome
  let all := [("name", text name), ("value", text keyword), ("_name_", text name),
    ("_value_", text keyword), ("__class__", .category home kind), ("__module__", text home)]
  match Assoc.get? (all ++ derived) asked with
  | some e => .ok e
  | none => .error (.slip .noMember)

def operationAttribute (kind name : String) (owner : Exhibit) (asked : String) :
    Except CallFault Exhibit :=
  match asked with
  | "__name__" => .ok (text name)
  | "__qualname__" => .ok (text (kind ++ "." ++ name))
  | "__self__" => .ok owner
  | _ => .error (.slip .noMember)

def categoryAttribute (home name asked : String) : Except CallFault Exhibit :=
  match asked with
  | "__name__" | "__qualname__" => .ok (text name)
  | "__module__" => .ok (text home)
  | _ => .error (.slip .noMember)

end Exhibit

namespace Bench

open Exhibit

def spaceWords : String := "Per-method accessor objects, reachable by attribute or by item"

def spaceAttribute (d : Double) (space : Space) (owner : Exhibit) (name : String) :
    Except CallFault Exhibit :=
  let kind := "AccessorNamespace"
  let slots := Exhibit.table (d.slotsIn space)
  let aliases := Exhibit.table (d.stub.aliases.map fun (key, accessor) => (key, text accessor))
  match name with
  | "_slots" => .ok slots
  | "_aliases" => .ok aliases
  | "__dict__" => .ok (.table [("_slots", slots), ("_aliases", aliases)])
  | "__doc__" => .ok (text spaceWords)
  | name =>
    match reflection? liveHome kind owner name with
    | some e => .ok e
    | none =>
      if Double.spaceMembers.contains name then .ok (.operation kind name owner)
      else do
        let accessor ← d.locate space .attribute name
        match Assoc.get? (d.slotsIn space) accessor with
        | some e => return e
        | none => throw (.noAttribute name)

def spaceItem (d : Double) (space : Space) (key : Datum) : Except CallFault Exhibit := do
  match key with
  | .plain (.text key) =>
    let accessor ← d.locate space .item key
    match Assoc.get? (d.slotsIn space) accessor with
    | some e => return e
    | none => throw (.slip .noKey)
  | _ => throw (.slip .noKey)

def ownTable (b : Bench) (number : Nat) (d : Double) : List (String × Exhibit) :=
  [("_generator", ofGenerator b.generator), ("stub", ofStub d.stub),
    ("stub_counter", .space number .counter), ("stub_callback", .space number .callback),
    ("stub_static", .space number .static),
    ("_nested", .table (d.nested.map fun (accessor, n) => (accessor, .datum (.double n))))]
    ++ d.marks.map fun (name, mark) => (name, .datum mark)

def doubleWords : String :=
  "\n    Instrumented stand-in for one interface.\n\n"
    ++ "    Methods are callable by their C++ name. Overloads are told apart by\n"
    ++ "    argument count only; overloads of equal arity must be called through\n"
    ++ "    ``invoke(accessor, *args)``.\n\n    Args:\n"
    ++ "        generator: the StubGenerator owning the memoized stubs\n"
    ++ "        stub: the StubDeclaration to realize\n    "

def ownAttribute? (b : Bench) (number : Nat) (d : Double) (owner : Exhibit) (name : String) :
    Option Exhibit :=
  let kind := "TestDouble"
  let operations := ["invoke", "stub_nested", "stub_reset_all", "_dispatch", "__getattr__",
    "__hash__"]
  let own : Option Exhibit :=
    match name with
    | "interface" => some (text d.interface)
    | "__dict__" => some (.table (b.ownTable number d))
    | "__test__" => some (truth false)
    | "__doc__" => some (text doubleWords)
    | name => if operations.contains name then some (.operation kind name owner) else none
  Assoc.get? (b.ownTable number d) name <|> own
    <|> reflection? liveHome kind owner name

def certainMethods (d : Double) (name : String) : Except CallFault Unit :=
  if name.startsWith "_" then .error (.noAttribute name)
  else if (d.stub.methodsNamed name).isEmpty then .error (.noMethod d.stub.name name)
  else .ok ()

def callerExhibit (name : String) : Exhibit :=
  .thing "function" "<function TestDouble._dispatch.<locals>.call>"
    [("__name__", text name), ("__qualname__", text "TestDouble._dispatch.<locals>.call"),
      ("__module__", text liveHome)]

def doubleAttribute (b : Bench) (number : Nat) (d : Double) (owner : Exhibit) (name : String) :
    Except CallFault Exhibit :=
  match b.ownAttribute? number d owner name with
  | some e => .ok e
  | none => (certainMethods d name).map fun _ => callerExhibit name

def datumAttribute (b : Bench) (d : Datum) (name : String) : Except CallFault Exhibit :=
  match b.heap.member? b.label d name with
  | some (.data part) => .ok (.datum part)
  | some (.proxy address) => .ok (.proxy (.cell address))
  | some (.construction kind) => .ok (.category "builtins" kind)
  | some .description | none => .error (.slip .noMember)
  | some _ => .ok (.operation (b.heap.kindName d) name (.datum d))

def attributeOf (b : Bench) (e : Exhibit) (name : String) : Except CallFault Exhibit :=
  match e with
  | .datum (.double number) | .datum (.twin number) =>
    match b.double? number with
    | some d => b.doubleAttribute number d e name
    | none => .error (.slip .noMember)
  | .datum d => b.datumAttribute d name
  | .record kind parts hidden derived _ => recordAttribute kind parts hidden derived e name
  | .choice kind own keyword derived => choiceAttribute kind own keyword derived name
  | .space number chosen =>
    match b.double? number with
    | some d => spaceAttribute d chosen e name
    | none => .error (.slip .noMember)
  | .operation kind own owner => operationAttribute kind own owner name
  | .category home own => categoryAttribute home own name
  | .thing kind _ parts =>
    match Assoc.get? parts name with
    | some part => .ok part
    | none =>
      if Double.thingOperations.contains name then .ok (.operation kind name e)
      else .error (.slip .noMember)
  | .tuple _ | .table _ | .proxy _ => .error (.slip .noMember)

def itemOf (b : Bench) (e : Exhibit) (key : Datum) : Except CallFault Exhibit := do
  match e with
  | .datum d | .proxy d => return .datum (← b.heap.part d key)
  | .tuple items => Heap.pickDatum items key
  | .table entries =>
    match key with
    | .plain (.text key) =>
      match Assoc.get? entries key with
      | some e => return e
      | none => throw (.slip .noKey)
    | _ => throw (.slip .noKey)
  | .space number chosen =>
    match b.double? number with
    | some d => spaceItem d chosen key
    | none => throw (.slip .noKey)
  | _ => throw (.slip .wrongType)

/-- What a space of a double has under a key as it is given: a slot, or a member of the space if it
is asked for as an attribute. -/
def slotExhibit (b : Bench) (number : Nat) (chosen : Space) (access : Double.Access)
    (key : Value) : Except CallFault Exhibit :=
  match b.double? number, access, key with
  | none, _, _ => .error (.slip .noMember)
  | some d, .attribute, .text name => spaceAttribute d chosen (.space number chosen) name
  | some d, access, key => do
    let accessor ← d.locateGiven chosen access key
    match Assoc.get? (d.slotsIn chosen) accessor with
    | some e => return e
    | none => throw (.slip .noKey)

def turnFrom (b : Bench) (e : Exhibit) : Turn → Except CallFault Exhibit
  | .attribute name => b.attributeOf e name
  | .item index => b.itemOf e (.int index)
  | .key name => b.itemOf e (.plain (.text name))

/-- What a datum shows: for what a double keeps, that to which its way leads. -/
def exhibit (b : Bench) (d : Datum) : Except CallFault Exhibit :=
  match d with
  | .kept number way => way.foldlM b.turnFrom (.datum (.double number))
  | d => .ok (.datum d)

def resolved (b : Bench) (e : Exhibit) : Except CallFault Exhibit :=
  match e with
  | .datum d => b.exhibit d
  | e => .ok e

def kindName (b : Bench) (d : Datum) : String :=
  match d with
  | .operation owner name =>
    match b.exhibit owner with
    | .ok e => operationKind (b.heap.operationKind · name) e name
    | .error _ => b.heap.kindName d
  | d =>
    match b.exhibit d with
    | .ok e => e.kindName b.heap
    | .error _ => b.heap.kindName d

end Bench
end Understudy
