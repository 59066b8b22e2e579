import Understudy.Slip
import Understudy.Stub.Override
import Understudy.Symbols.Resolve

/-! The header of a set of doubles.

For every double come its callback interfaces, counters, static returns, the aggregates of these
and the class itself; the definitions of all members follow all classes, so that nested doubles
are complete where they are created.
-/

set_option autoImplicit false

namespace Understudy

open Understudy.Cpp

/-- How types are written: as declared where a table resolves them, else as they are spelled. -/
def spellIn (symbols : Option SymbolTable) (context : String) (t : SemanticType) : String :=
  match symbols with
  | none => t.spelling
  | some table =>
    (t.rename fun name => ((table.resolve? name context).map (·.name)).getD name).spelling

structure MemberFunction where
  /-- The return type; constructors and destructors have none. -/
  result : Option String
  name : String
  parameters : String
  isConst : Bool
  isVirtual : Bool
  initializers : List String
  body : List String
  deriving DecidableEq, Repr

namespace MemberFunction

def signature (f : MemberFunction) (qualifier : String) : String :=
  ((f.result.map (· ++ " ")).getD "") ++ qualifier ++ f.name ++ "(" ++ f.parameters
    ++ ")" ++ (if f.isConst then " const" else "")

def declare (f : MemberFunction) : String :=
  indentation ++ (if f.isVirtual then "virtual " else "") ++ f.signature "" ++ ";"

def define (owner : String) (f : MemberFunction) : List String :=
  let start := if f.initializers.isEmpty then "" else " : " ++ ", ".intercalate f.initializers
  ["inline " ++ f.signature (owner ++ "::") ++ start ++ " \x7b"] ++ f.body ++ ["\x7d", ""]

end MemberFunction

/-- Aggregates of a double: the aggregate's type, its getter and its member. -/
def aggregateNames : List (String × String × String) :=
  [("StubCounter", "StubGetCounter", "stub_counter"),
   ("StubCallback", "StubGetCallback", "stub_callback"),
   ("StubStatic", "StubGetStatic", "stub_static")]

def nestedMember (m : InstrumentedMethod) : String := "stub_nested_" ++ m.accessor

section

variable (symbols : Option SymbolTable)

def parameterList (context : String) (parameters : List Parameter) : String :=
  ", ".intercalate (parameters.zipIdx.map fun (p, index) =>
    spellIn symbols context p.type ++ " x" ++ toString index)

def constructorOf (s : Stub) : MemberFunction :=
  { result := none, name := s.name, parameters := "", isConst := false, isVirtual := false
    initializers := ["stub_counter()", "stub_callback()", "stub_static()"]
      ++ s.nesting.map fun m => nestedMember m ++ "(0)"
    body := [] }

def destructorOf (s : Stub) : MemberFunction :=
  { result := none, name := "~" ++ s.name, parameters := "", isConst := false, isVirtual := true
    initializers := []
    body := s.nesting.map fun m => indentation ++ "delete " ++ nestedMember m ++ ";" }

def gettersOf (s : Stub) : List MemberFunction :=
  aggregateNames.map fun (aggregate, getter, member) =>
    { result := some (s.internalSpace ++ "::" ++ aggregate ++ "&"), name := getter, parameters := ""
      isConst := false, isVirtual := false, initializers := []
      body := [indentation ++ "return " ++ member ++ ";"] }

def overrideOf (m : InstrumentedMethod) : MemberFunction :=
  { result := some (spellIn symbols m.declaring m.returnType)
    name := m.name
    parameters := parameterList symbols m.declaring m.method.parameters
    isConst := m.method.isConst, isVirtual := false, initializers := []
    body := (overrideBody m).flatMap (Statement.lines m) }

/-- A reference is answered with the double itself, anything but nothing with a fresh value. -/
def passthroughBody (p : PassthroughMethod) : List String :=
  if p.returnType.isReference then [indentation ++ "return *this;"]
  else if p.returnType.isVoid then []
  else [indentation ++ "return " ++ spellIn symbols p.declaring p.returnType.stripConst ++ "();"]

def passthroughOf (p : PassthroughMethod) : MemberFunction :=
  { result := some (spellIn symbols p.declaring p.returnType)
    name := p.method.name
    parameters := parameterList symbols p.declaring p.method.parameters
    isConst := p.method.isConst, isVirtual := false, initializers := []
    body := passthroughBody symbols p }

/-- The class of the double that a method hands out. -/
def nestedClass (s : Stub) (m : InstrumentedMethod) : String := s.nestedName (m.nested.getD "")

def nestedOf (s : Stub) (m : InstrumentedMethod) : MemberFunction :=
  let member := nestedMember m
  { result := some (nestedClass s m ++ "&"), name := "StubNested_" ++ m.accessor, parameters := ""
    isConst := true, isVirtual := false, initializers := []
    body := Statement.guarded (member ++ " == 0") (member ++ " = new " ++ nestedClass s m ++ ";")
      ++ [indentation ++ "return *" ++ member ++ ";"] }

def interfaceMembers (s : Stub) : List MemberFunction :=
  s.methods.map (overrideOf symbols) ++ s.passthrough.map (passthroughOf symbols)
    ++ s.nesting.map (nestedOf s)

def memberFunctions (s : Stub) : List MemberFunction :=
  [constructorOf s, destructorOf s] ++ gettersOf s ++ interfaceMembers symbols s

def opening (space : String) : String := "namespace " ++ space ++ " \x7b"

def closing (space : String) : List String := ["\x7d // namespace " ++ space, ""]

def callbackLines (m : InstrumentedMethod) : List String :=
  ["struct " ++ m.callbackName ++ " \x7b",
   indentation ++ "virtual ~" ++ m.callbackName ++ "() \x7b\x7d",
   indentation ++ "virtual " ++ spellIn symbols m.declaring m.returnType ++ " " ++ m.accessor ++ "("
     ++ parameterList symbols m.declaring m.method.parameters ++ ") = 0;",
   "\x7d;",
   "struct " ++ m.accessor ++ "_t \x7b",
   indentation ++ m.callbackName ++ "* callback;",
   "\x7d;"]

def counterLines (m : InstrumentedMethod) : List String :=
  ["struct " ++ m.accessor ++ "_t \x7b", indentation ++ "unsigned call_counter;"]
    ++ m.slots.map (fun (slot, type) =>
      indentation ++ spellIn symbols m.declaring type ++ " " ++ slot ++ ";")
    ++ ["\x7d;"]

def staticLines (m : InstrumentedMethod) : List String :=
  match m.staticType? with
  | none => []
  | some type =>
    ["struct " ++ m.accessor ++ "_t \x7b",
     indentation ++ spellIn symbols m.declaring type ++ " stub_return;",
     "\x7d;"]

def callbacksOf (s : Stub) : List String :=
  [opening s.callbackSpace] ++ s.methods.flatMap (callbackLines symbols) ++ closing s.callbackSpace

def countersOf (s : Stub) : List String :=
  [opening s.counterSpace] ++ s.methods.flatMap (counterLines symbols) ++ closing s.counterSpace

def staticsOf (s : Stub) : List String :=
  [opening s.staticSpace] ++ s.returning.flatMap (staticLines symbols) ++ closing s.staticSpace

def aggregateLines (name space : String) (accessors : List String) : List String :=
  ["struct " ++ name ++ " \x7b"]
    ++ accessors.map (fun a =>
      indentation ++ space ++ "::" ++ a ++ "_t& " ++ a ++ "() \x7b return " ++ a ++ "_; \x7d")
    ++ accessors.map (fun a => indentation ++ space ++ "::" ++ a ++ "_t " ++ a ++ "_;")
    ++ ["\x7d;", ""]

def internalOf (s : Stub) : List String :=
  [opening s.internalSpace,
   "template<typename T>",
   "void StubInit(T* value) \x7b",
   indentation ++ "*value = T();",
   "\x7d",
   ""]
    ++ aggregateLines "StubCounter" s.counterSpace (s.methods.map (·.accessor))
    ++ aggregateLines "StubCallback" s.callbackSpace (s.methods.map (·.accessor))
    ++ aggregateLines "StubStatic" s.staticSpace (s.returning.map (·.accessor))
    ++ closing s.internalSpace

def stateMembers (s : Stub) : List String :=
  aggregateNames.map (fun (aggregate, _, member) =>
    indentation ++ "mutable " ++ s.internalSpace ++ "::" ++ aggregate ++ " " ++ member ++ ";")
    ++ s.nesting.map fun m =>
      indentation ++ "mutable " ++ nestedClass s m ++ "* " ++ nestedMember m ++ ";"

def classOf (s : Stub) : List String :=
  ["class " ++ s.name ++ " : public " ++ s.interface ++ " \x7b", "public:"]
    ++ [constructorOf s, destructorOf s].map (·.declare) ++ [""]
    ++ (gettersOf s).map (·.declare) ++ [""]
    ++ (interfaceMembers symbols s).map (·.declare)
    ++ ["",
        "private:",
        indentation ++ s.name ++ "(const " ++ s.name ++ "& other);",
        indentation ++ s.name ++ "& operator=(const " ++ s.name ++ "& other);",
        ""]
    ++ stateMembers s
    ++ ["\x7d;", ""]

def declarationLines (s : Stub) : List String :=
  ["// Test double of " ++ s.interface]
    ++ s.unresolvedBases.map ("// unresolved base: " ++ ·)
    ++ callbacksOf symbols s ++ countersOf symbols s ++ staticsOf symbols s ++ internalOf s
    ++ classOf symbols s

def definitionLines (s : Stub) : List String :=
  (memberFunctions symbols s).flatMap (·.define s.name)

/-- The doubles of a header: all class names, all classes, then all definitions. -/
def stubLines (stubs : List Stub) : List String :=
  (if stubs.isEmpty then [] else stubs.map (fun s => "class " ++ s.name ++ ";") ++ [""])
    ++ stubs.flatMap (declarationLines symbols) ++ stubs.flatMap (definitionLines symbols)

end

def reportLines (diagnostics : Diagnostics) : List String :=
  if diagnostics.isEmpty then []
  else ["//", "// Diagnostics:"] ++ diagnostics.map ("//   " ++ ·.text)

def guardOf (settings : Entries) : Except Slip String :=
  let guard := (settings.get? "guard").getD .null
  if guard.holds then .ok guard.shown
  else
    match (settings.get? "basename").getD (.text "stub") with
    | .text basename => .ok (Text.guardName basename)
    | _ => .error .wrongType

/-- Extra headers: the parts of a value, or a text with commas between them. -/
def extraHeaders (settings : Entries) : Except Slip (List Value) :=
  let extra := (settings.get? "includes").getD .null
  match extra with
  | .text s =>
    let parts := (Text.pieces ',' s.toList).map Text.trim
    .ok ((parts.filter fun p => !p.isEmpty).map fun p => .text (String.ofList p))
  | v =>
    if !v.holds then .ok []
    else
      match v.parts? with
      | some parts => .ok parts
      | none => .error .wrongType

/-- The headers to include, each once: those of the interfaces, then the extra ones. -/
def headersOf (symbols : Option SymbolTable) (settings : Entries) (stubs : List Stub) :
    Except Slip (List Value) := do
  let own := stubs.filterMap fun s => (symbols.bind (·.header? s.interface)).filter (·.holds)
  return (own ++ (← extraHeaders settings)).eraseDups

def includeLines (headers : List Value) : Except Slip (List String) :=
  if headers.isEmpty then .ok []
  else do
    let lines ← headers.mapM fun h =>
      match h with
      | .text s => .ok (Text.includeLine s)
      | _ => .error .noMember
    return lines ++ [""]

def typeSlip? (symbols : Option SymbolTable) (t : SemanticType) : Option Slip :=
  t.misname?.map fun (builtin, _) => if symbols.isSome && !builtin then .noMember else .wrongType

/-- The first return type of a double that cannot be written. Its parameters all can, since the
double tells methods apart by them. -/
def stubSlip? (symbols : Option SymbolTable) (s : Stub) : Option Slip :=
  (s.methods.map (·.returnType) ++ s.passthrough.map (·.returnType)).findSome? (typeSlip? symbols)

def headerLines (symbols : Option SymbolTable) (diagnostics : Diagnostics) (guard : String)
    (includes : List String) (stubs : List Stub) : List String :=
  ["// Generated by declviews. Do not edit."]
    ++ reportLines diagnostics
    ++ ["", "#ifndef " ++ guard, "#define " ++ guard, ""]
    ++ includes
    ++ stubLines symbols stubs
    ++ ["#endif // " ++ guard]

def renderHeader (symbols : Option SymbolTable) (diagnostics : Diagnostics) (settings : Entries)
    (stubs : List Stub) : Except Slip String := do
  let guard ← guardOf settings
  let includes ← includeLines (← headersOf symbols settings stubs)
  if let some slip := stubs.findSome? (stubSlip? symbols) then throw slip
  return "\n".intercalate (headerLines symbols diagnostics guard includes stubs) ++ "\n"

end Understudy
