import Understudy.Double.Exhibit.Basic

/-! The records that doubles are made of, as exhibits. -/

set_option autoImplicit false

namespace Understudy.Exhibit

open Understudy.Cpp

def open_ (kind : RecordKind) (parts derived : List (String × Exhibit)) : Exhibit :=
  .record kind parts [] derived none

def choiceOf (kind keyword : String) (derived : List (String × Exhibit)) : Exhibit :=
  .choice kind (String.ofList (keyword.toList.map Char.toUpper)) keyword derived

def typeKeyword : SemanticType → String
  | .primitive .. | .misnamed true .. => "primitive"
  | .named .. | .misnamed false .. => "named"
  | .pointer .. => "pointer"
  | .reference .. => "reference"

def ofName : Value → Exhibit
  | .list items => .thing "list" (Value.quoted (.list items)) []
  | .object entries => .thing "dict" (Value.quoted (.object entries)) []
  | v => .datum (.plain v)

def ofType : SemanticType → Exhibit
  | .primitive name c => leaf (.primitive name c) (text name)
  | .named name c => leaf (.named name c) (text name)
  | .misnamed builtin name c => leaf (.misnamed builtin name c) (ofName name)
  | .pointer inner c => made (.pointer inner c) nothing (ofType inner)
  | .reference inner c => made (.reference inner c) nothing (ofType inner)
where
  made (t : SemanticType) (name inner : Exhibit) : Exhibit :=
    .record .type
      [("kind", choiceOf "TypeKind" (typeKeyword t) []), ("name", name), ("inner", inner),
        ("is_const", truth t.isConst)]
      [] [("is_void", truth t.isVoid), ("is_indirect", truth t.isIndirect)]
      (some (if t.isSpelled then .ok t.spelling else .error .wrongType))
  leaf (t : SemanticType) (name : Exhibit) : Exhibit := made t name nothing

def ofParameter (p : Parameter) : Exhibit :=
  open_ .parameter [("type", ofType p.type), ("name", ofName p.name)] []

def ofParameters (ps : List Parameter) : Exhibit := .tuple (ps.map ofParameter)

def ofSignature (m : Method String) : Exhibit :=
  open_ .signature
    [("name", text m.name), ("parameters", ofParameters m.parameters),
      ("return_type", optional ofType m.returnType), ("is_pure_virtual", truth m.isPure),
      ("is_const", truth m.isConst),
      ("visibility", choiceOf "Visibility" m.visibility.keyword [])]
    []

def ofReturnKind (k : ReturnKind) : Exhibit :=
  choiceOf "ReturnKind" k.keyword [("returns_interface", truth k.returnsInterface)]

def ofCallbackInterface (m : InstrumentedMethod) : Exhibit :=
  open_ .callbackInterface
    [("name", text m.callbackName), ("method", text m.accessor),
      ("parameters", ofParameters m.method.parameters),
      ("return_type", optional ofType m.method.returnType)]
    []

def ofMethod (m : InstrumentedMethod) : Exhibit :=
  open_ .method
    [("accessor", text m.accessor), ("declaring", text m.declaring),
      ("method", ofSignature m.method), ("return_kind", ofReturnKind m.returnKind),
      ("callback", ofCallbackInterface m), ("nested", optional text m.nested)]
    [("name", text m.name), ("mangled", text m.mangled), ("is_void", truth m.isVoid),
      ("param_slots", texts (m.slots.map (·.1)))]

def ofPassthrough (p : PassthroughMethod) : Exhibit :=
  open_ .passthrough [("declaring", text p.declaring), ("method", ofSignature p.method)] []

def ofStub (s : Stub) : Exhibit :=
  open_ .stub
    [("interface", text s.interface), ("name", text s.name), ("suffix", text s.suffix),
      ("prefix", text s.lead), ("methods", .tuple (s.methods.map ofMethod)),
      ("passthrough", .tuple (s.passthrough.map ofPassthrough)), ("nested", texts s.nested),
      ("unresolved_bases", texts s.unresolvedBases)]
    [("callback_namespace", text s.callbackSpace), ("counter_namespace", text s.counterSpace),
      ("static_namespace", text s.staticSpace), ("internal_namespace", text s.internalSpace),
      ("returning_methods", .tuple (s.returning.map ofMethod)),
      ("nesting_methods", .tuple (s.nesting.map ofMethod))]

def ofCounter (c : Counter) : Exhibit :=
  open_ .counter
    [("call_counter", .datum (.int c.calls)), ("params", .tuple (c.params.map datum))] []

def callbackWith (methods : List String) : Exhibit :=
  .thing "callback" "<callback>"
    (methods.map fun name => (name, .operation "callback" name (thingWith methods)))
where
  thingWith (methods : List String) : Exhibit :=
    .thing "callback" "<callback>" (methods.map fun name => (name, nothing))

def ofCallback : Callback → Exhibit
  | .datum d => .datum d
  | .function _ => callbackWith ["__call__"]
  | .object method _ => callbackWith [method]
  | .inert => callbackWith []

def ofCallbackSlot (c : Option Callback) : Exhibit :=
  open_ .callbackSlot [("callback", optional ofCallback c)] []

def ofStatic (a : StaticAnswer) : Exhibit :=
  .record .staticSlot [("stub_return", .datum a.current)] [("initial", .datum a.initial)] [] none

def ofGenerator (g : Generator) : Exhibit :=
  .thing "StubGenerator" "<StubGenerator object>"
    [("prefix", ofName g.lead), ("_memo", .table (g.memo.map fun (key, s) => (key, ofStub s)))]

end Understudy.Exhibit
