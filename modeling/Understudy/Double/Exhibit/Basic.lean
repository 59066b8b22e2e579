import Understudy.Double.Bench

/-! What templates and readings show of doubles.

Beside data there are the records that a double is made of, the spaces that hold its slots, tables
and tuples of these, the choices that records make, and operations, which are shown by their names.
-/

set_option autoImplicit false

namespace Understudy

inductive RecordKind where
  | counter
  | callbackSlot
  | staticSlot
  | stub
  | method
  | callbackInterface
  | signature
  | parameter
  | type
  | passthrough
  deriving DecidableEq, Repr

namespace RecordKind

def label : RecordKind → String
  | .counter => "CallCounter"
  | .callbackSlot => "CallbackSlot"
  | .staticSlot => "StaticReturn"
  | .stub => "StubDeclaration"
  | .method => "InstrumentedMethod"
  | .callbackInterface => "CallbackInterface"
  | .signature => "Method"
  | .parameter => "Parameter"
  | .type => "SemanticType"
  | .passthrough => "PassthroughMethod"

/-- Whether a record of a kind is a slot, which can change. -/
def isSlot : RecordKind → Bool
  | .counter | .callbackSlot | .staticSlot => true
  | _ => false

def modelHome : String := "declviews.codeviews.stub.stub_model"

def declarationHome : String := "declviews.model.declarations"

def home : RecordKind → String
  | .counter | .callbackSlot | .staticSlot => liveHome
  | .stub | .method | .callbackInterface | .passthrough => modelHome
  | .signature | .parameter | .type => declarationHome

def operations : RecordKind → List String
  | .counter | .callbackSlot | .staticSlot => ["reset"]
  | .stub => ["method", "methods_named"]
  | .method => ["stored_param_type", "static_return_type"]
  | .signature => ["signature", "identifier", "mangled_name"]
  | .type => ["target_name", "strip_const", "with_names", "spelling"]
  | .callbackInterface | .parameter | .passthrough => []

end RecordKind

inductive Exhibit where
  | datum (d : Datum)
  | tuple (items : List Exhibit)
  | table (entries : List (String × Exhibit))
  | proxy (d : Datum)
  /-- A record with the parts that its text lists, those it keeps to itself, and what follows from
  them. A record may have a text of its own inside sentences, or none. -/
  | record (kind : RecordKind) (parts hidden derived : List (String × Exhibit))
      (text : Option (Except Slip String))
  /-- One of several possibilities, by the name of their kind, its own name and its keyword. -/
  | choice (kind name keyword : String) (derived : List (String × Exhibit))
  | space (number : Nat) (space : Space)
  | operation (kind name : String) (owner : Exhibit)
  | category (home name : String)
  | thing (kind text : String) (parts : List (String × Exhibit))

namespace Exhibit

def text (s : String) : Exhibit := .datum (.plain (.text s))

def truth (b : Bool) : Exhibit := .datum (.truth b)

def nothing : Exhibit := .datum .nothing

def texts (l : List String) : Exhibit := .tuple (l.map text)

def optional {α : Type} (f : α → Exhibit) : Option α → Exhibit
  | some a => f a
  | none => nothing

mutual

def quoted (write : Datum → String) : Exhibit → String
  | .datum d => write d
  | .tuple items => Heap.quotedTuple (quotedItems write items)
  | .table entries => Heap.bracketed "\x7b" "\x7d" (quotedEntries write entries)
  | .proxy d => "mappingproxy(" ++ write d ++ ")"
  | .record kind parts _ _ _ => kind.label ++ Heap.bracketed "(" ")" (quotedParts write parts)
  | .choice kind name keyword _ =>
    "<" ++ kind ++ "." ++ name ++ ": " ++ Text.quoted keyword ++ ">"
  | .space _ _ => "<AccessorNamespace object>"
  | .operation kind name owner =>
    "<bound method " ++ kind ++ "." ++ name ++ " of " ++ owner.quoted write ++ ">"
  | .category home name =>
    "<class " ++ Text.quoted (if home == "builtins" then name else home ++ "." ++ name) ++ ">"
  | .thing _ text _ => text

def quotedItems (write : Datum → String) : List Exhibit → List String
  | [] => []
  | e :: rest => e.quoted write :: quotedItems write rest

def quotedEntries (write : Datum → String) : List (String × Exhibit) → List String
  | [] => []
  | (key, e) :: rest => (Text.quoted key ++ ": " ++ e.quoted write) :: quotedEntries write rest

def quotedParts (write : Datum → String) : List (String × Exhibit) → List String
  | [] => []
  | (name, e) :: rest => (name ++ "=" ++ e.quoted write) :: quotedParts write rest

end

/-- Operations between marks that things of a kind define for themselves; the remaining ones belong
to all things by their nature. -/
def definedOperations : Exhibit → List String
  | .record .counter .. => ["__init__", "__repr__", "__eq__", "__getattr__"]
  | .record .callbackSlot .. | .record .staticSlot .. => ["__init__", "__repr__", "__eq__"]
  | .record .. =>
    ["__init__", "__repr__", "__eq__", "__hash__", "__setattr__", "__delattr__", "__str__"]
  | .space .. =>
    ["__init__", "__getattr__", "__getitem__", "__contains__", "__iter__", "__len__"]
  | .thing _ _ parts => ["__init__", "__repr__"] ++ parts.map (·.1)
  | _ => []

def operationKind (ofDatum : Datum → String) (owner : Exhibit) (name : String) : String :=
  match owner with
  | .datum d => ofDatum d
  | owner =>
    if name.startsWith "__" && !(plainOperations ++ owner.definedOperations).contains name then
      "method-wrapper"
    else "method"

def kindName (h : Heap) : Exhibit → String
  | .datum d => h.kindName d
  | .tuple _ => "tuple"
  | .table _ => "dict"
  | .proxy _ => "mappingproxy"
  | .record kind .. => kind.label
  | .choice kind .. => kind
  | .space .. => "AccessorNamespace"
  | .operation _ name owner => operationKind (h.operationKind · name) owner name
  | .category .. => "type"
  | .thing kind .. => kind

/-- An exhibit inside a sentence, by the forms of data there and elsewhere. -/
def shown (show_ write : Datum → String) : Exhibit → Except Slip String
  | .datum d => .ok (show_ d)
  | .record _ _ _ _ (some text) => text
  | .choice kind name _ _ => .ok (kind ++ "." ++ name)
  | e => .ok (e.quoted write)

end Exhibit
end Understudy
