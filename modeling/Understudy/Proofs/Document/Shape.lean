import Mathlib.Data.List.Forall2
import Understudy.Document.Unit
import Understudy.Proofs.Cpp.Acceptance
import Understudy.Proofs.Value.Keys

/-! What unit documents may hold, which of them are sound, and the units they stand for.

A document has the shape of a unit if every value in it has the form that is looked into; keys may
be missing. It is sound if nothing is missing in it and every word and type is known. Records
correspond to a document if they hold what the document says, in its order.
-/

set_option autoImplicit false

namespace Understudy.Document

open Understudy.Cpp

/-! ## Parts of an object -/

def IsText (v : Value) : Prop := ∃ s, v = .text s

section Parts

variable (entries : Entries) (key : String)

def HoldsText : Prop := ∀ v, entries.get? key = some v → IsText v

def HoldsList : Prop := ∀ v, entries.get? key = some v → ∃ items, v = .list items

def itemsUnder : List Value :=
  match entries.get? key with
  | some (.list items) => items
  | _ => []

end Parts

def IsRecord (P : Entries → Prop) : Value → Prop
  | .object entries => P entries
  | _ => False

/-! ## Shapes -/

structure HasMethodShape (entries : Entries) : Prop where
  name : HoldsText entries "name"
  params : HoldsList entries "params"
  eachParam : ∀ v ∈ itemsUnder entries "params", IsText v ∨ IsRecord (fun _ => True) v

structure HasDeclarationShape (entries : Entries) : Prop where
  name : HoldsText entries "name"
  bases : HoldsList entries "bases"
  methods : HoldsList entries "methods"
  eachMethod : ∀ v ∈ itemsUnder entries "methods", IsRecord HasMethodShape v
  fields : HoldsList entries "fields"
  eachField : ∀ v ∈ itemsUnder entries "fields", IsRecord (fun _ => True) v

inductive HasCallShape : Value → Prop where
  | text (s : String) : HasCallShape (.text s)
  | object {entries : Entries} (constructs : HoldsList entries "constructs")
      (arguments : HoldsList entries "arguments")
      (each : ∀ v ∈ itemsUnder entries "arguments", HasCallShape v) : HasCallShape (.object entries)

structure HasBodyShape (entries : Entries) : Prop where
  name : HoldsText entries "name"
  calls : HoldsList entries "calls"
  each : ∀ v ∈ itemsUnder entries "calls", HasCallShape v

/-- The shape of a unit document. Of values that are only kept, or of which only some are known,
nothing is asked. -/
structure HasUnitShape (entries : Entries) : Prop where
  unit : HoldsText entries "unit"
  declarations : HoldsList entries "declarations"
  eachDeclaration : ∀ v ∈ itemsUnder entries "declarations", IsRecord HasDeclarationShape v
  bodies : HoldsList entries "bodies"
  eachBody : ∀ v ∈ itemsUnder entries "bodies", IsRecord HasBodyShape v

/-! ## Soundness -/

/-- What an object wraps that tags no base: a pointer counts before a reference. -/
def wrapped? (entries : Entries) : Option Value :=
  (entries.get? "pointer").or (entries.get? "reference")

/-- Whether an object tags a base; what it wraps then says nothing. -/
def tagsBase (entries : Entries) : Bool := entries.has "primitive" || entries.has "named"

inductive IsType : Value → Prop where
  | spelled {s : String} (sequence : IsTypeSequence (Token.scan s)) : IsType (.text s)
  | tagged {entries : Entries} (tag : tagsBase entries = true) : IsType (.object entries)
  | wrapping {entries : Entries} {v : Value} (wraps : wrapped? entries = some v)
      (inner : IsType v) : IsType (.object entries)

def HasType (entries : Entries) (key : String) : Prop := ∃ v, entries.get? key = some v ∧ IsType v

inductive IsParameter : Value → Prop where
  | spelled {s : String} (type : IsType (.text s)) : IsParameter (.text s)
  | object {entries : Entries} (type : HasType entries "type") : IsParameter (.object entries)

structure IsMethod (entries : Entries) : Prop where
  name : entries.has "name" = true
  visibility : ∀ v, entries.get? "visibility" = some v → ∃ x : Visibility, v = .text x.keyword
  params : ∀ v ∈ itemsUnder entries "params", IsParameter v
  returns : ∀ v, entries.get? "return" = some v → v = .null ∨ IsType v

structure IsField (entries : Entries) : Prop where
  name : entries.has "name" = true
  type : HasType entries "type"

structure IsDeclaration (entries : Entries) : Prop where
  name : entries.has "name" = true
  kind : ∀ v, entries.get? "kind" = some v → ∃ k : DeclKind, v = .text k.keyword
  methods : ∀ v ∈ itemsUnder entries "methods", IsRecord IsMethod v
  fields : ∀ v ∈ itemsUnder entries "fields", IsRecord IsField v

inductive IsCall : Value → Prop where
  | text (s : String) : IsCall (.text s)
  | object {entries : Entries} (callee : entries.has "callee" = true)
      (constructs : ∀ v ∈ itemsUnder entries "constructs", ∃ c : Construct, v = .text c.keyword)
      (arguments : ∀ v ∈ itemsUnder entries "arguments", IsCall v) : IsCall (.object entries)

structure IsBody (entries : Entries) : Prop where
  name : entries.has "name" = true
  calls : ∀ v ∈ itemsUnder entries "calls", IsCall v

/-- The name that is taken where a document has none, nothing where there is no such name. -/
def defaultName (default : Option String) : Value := (default.map Value.text).getD .null

def unitName (entries : Entries) (default : Option String) : Value :=
  (entries.get? "unit").getD (defaultName default)

/-- A document with a unit name in which nothing is missing, and in which every kind, visibility,
construct and type is known. -/
structure IsUnit (entries : Entries) (default : Option String) : Prop where
  name : ∃ s, unitName entries default = .text s ∧ s ≠ ""
  declarations : ∀ v ∈ itemsUnder entries "declarations", IsRecord IsDeclaration v
  bodies : ∀ v ∈ itemsUnder entries "bodies", IsRecord IsBody v

/-! ## Correspondence -/

def TypeUnder (entries : Entries) (key : String) (t : SemanticType) : Prop :=
  ∃ v, entries.get? key = some v ∧ readType v = .ok t

inductive ParameterOf : Value → Parameter → Prop where
  | spelled {s : String} {t : SemanticType} (type : parseType s = .ok t) :
      ParameterOf (.text s) ⟨t, .null⟩
  | object {entries : Entries} {t : SemanticType} (type : TypeUnder entries "type" t) :
      ParameterOf (.object entries) ⟨t, (entries.get? "name").getD .null⟩

/-- A return type that is not stated, or that is nothing, is none. -/
inductive ReturnOf : Value → Option SemanticType → Prop where
  | none : ReturnOf .null none
  | some {v : Value} {t : SemanticType} (type : readType v = .ok t) : ReturnOf v (some t)

structure MethodOf (entries : Entries) (m : Method Value) : Prop where
  name : entries.get? "name" = some m.name
  params : List.Forall₂ ParameterOf (itemsUnder entries "params") m.parameters
  returns : ReturnOf ((entries.get? "return").getD .null) m.returnType
  visibility : (entries.get? "visibility").getD (.text "public") = .text m.visibility.keyword
  isPure : m.isPure = flagUnder entries "pure_virtual"
  isConst : m.isConst = flagUnder entries "const"

structure FieldOf (owner : Value) (entries : Entries) (x : DataMember) : Prop where
  name : entries.get? "name" = some x.name
  type : TypeUnder entries "type" x.type
  owner : x.owner = owner

structure DeclarationOf (unit : Value) (entries : Entries) (d : Declaration Value) : Prop where
  name : entries.get? "name" = some d.name
  kind : match entries.get? "kind" with
    | some v => v = .text d.kind.keyword
    | none => inferKindOf d.name d.methods = .ok d.kind
  bases : d.bases = itemsUnder entries "bases"
  methods : List.Forall₂ (fun v m => IsRecord (MethodOf · m) v) (itemsUnder entries "methods")
    d.methods
  fields : List.Forall₂ (fun v x => IsRecord (FieldOf d.name · x) v) (itemsUnder entries "fields")
    d.fields
  isFull : d.isFull = ((entries.get? "fully_defined").getD (.bool true)).holds
  unit : d.unit = unit

inductive CallOf : Value → CallSite → Prop where
  | text (s : String) : CallOf (.text s) (.mk (.text s) [] [])
  | object {entries : Entries} {callee : Value} {constructs : List Construct}
      {arguments : List CallSite} (named : entries.get? "callee" = some callee)
      (around : itemsUnder entries "constructs" = constructs.map fun c => .text c.keyword)
      (inside : List.Forall₂ CallOf (itemsUnder entries "arguments") arguments) :
      CallOf (.object entries) (.mk callee constructs arguments)

structure BodyOf (unit : Value) (entries : Entries) (b : FunctionBody Value) : Prop where
  name : entries.get? "name" = some b.name
  kind : ∃ s, b.name = .text s ∧
    b.kind = (entries.get? "kind").getD (.text (if isScoped s then "method" else "function"))
  calls : List.Forall₂ CallOf (itemsUnder entries "calls") b.calls
  unit : b.unit = unit

/-- A unit with the name `unit` that holds the records of a document one by one. -/
structure UnitOf (unit : Value) (entries : Entries) (u : UnitRecord Value) : Prop where
  name : u.name = unit
  declarations : List.Forall₂ (fun v d => IsRecord (DeclarationOf unit · d) v)
    (itemsUnder entries "declarations") u.declarations
  bodies : List.Forall₂ (fun v b => IsRecord (BodyOf unit · b) v)
    (itemsUnder entries "bodies") u.bodies
  header : u.header = (entries.get? "header").getD .null

end Understudy.Document
