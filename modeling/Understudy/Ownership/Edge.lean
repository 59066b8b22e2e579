import Understudy.Symbols.Resolve

/-! Uses of types and how they bind: owned when the declaration embeds the other one, referenced
otherwise. -/

set_option autoImplicit false

namespace Understudy

open Understudy.Cpp

inductive Ownership where
  | owned
  | referenced
  deriving DecidableEq, Repr

def Ownership.keyword : Ownership → String
  | .owned => "owned"
  | .referenced => "referenced"

/-- Where in a declaration a type is used. -/
inductive Site where
  | base (name : String)
  | field (name : Value)
  | parameter (index : Nat) (method : String) (position : Nat)
  | result (index : Nat) (method : String)
  deriving DecidableEq, Repr

namespace Site

def parameterText (index method position : String) : String :=
  "method:" ++ index ++ ":" ++ method ++ "/param:" ++ position

def resultText (index method : String) : String := "method:" ++ index ++ ":" ++ method ++ "/return"

def text : Site → String
  | .base name => "base:" ++ name
  | .field name => "field:" ++ name.shown
  | .parameter index method position =>
    parameterText (toString index) method (toString position)
  | .result index method => resultText (toString index) method

/-- Bases and fields have to be complete where the declaration is; methods only name types. -/
def isHard : Site → Bool
  | .base _ | .field _ => true
  | .parameter .. | .result .. => false

end Site

structure OwnershipEdge where
  source : String
  site : Site
  target : String
  ownership : Ownership
  /-- Whether the target is declared. -/
  resolved : Bool
  deriving DecidableEq, Repr

namespace OwnershipEdge

def isOwned (e : OwnershipEdge) : Bool := e.ownership == .owned

end OwnershipEdge

inductive Usage where
  | base (name : String)
  | type (type : SemanticType)
  deriving DecidableEq, Repr

/-- A use that classification cannot look up: a type tagged as named by a value that is no text.
A name that is nothing is no use at all. -/
def Usage.isUnfit : Usage → Bool
  | .base _ => false
  | .type t => t.misname?.any fun (builtin, name) => !builtin && name != .null

def methodUses (index : Nat) (m : Method String) : List (Site × Usage) :=
  m.parameters.zipIdx.map (fun (p, position) => (.parameter index m.name position, .type p.type))
    ++ (m.returnType.map fun t => (.result index m.name, .type t)).toList

def usesOf (d : Declaration String) : List (Site × Usage) :=
  d.bases.map (fun base => (.base base, .base base))
    ++ d.fields.map (fun f => (.field f.name, .type f.type))
    ++ d.methods.zipIdx.flatMap fun (m, index) => methodUses index m

/-- The target of a use, how it binds, whether it is declared, and what there is to report. -/
structure Verdict where
  target : String
  ownership : Ownership
  resolved : Bool
  report : Option String
  deriving DecidableEq, Repr

def classifyBase (t : SymbolTable) (context base : String) : Verdict :=
  match t.resolve? base context with
  | none => ⟨base, .referenced, false, some ("base '" ++ base ++ "' is not declared in any unit")⟩
  | some d =>
    if d.isFull then ⟨d.name, .owned, true, none⟩
    else ⟨d.name, .referenced, true, some ("base '" ++ d.name ++ "' is only forward declared")⟩

def classifyType (t : SymbolTable) (context : String) (type : SemanticType) : Option Verdict :=
  type.target?.map fun target =>
    match t.resolve? target context with
    | none =>
      ⟨target, .referenced, false, some ("type '" ++ target ++ "' is not declared in any unit")⟩
    | some d =>
      if type.isIndirect then ⟨d.name, .referenced, true, none⟩
      else if d.isFull then ⟨d.name, .owned, true, none⟩
      else
        ⟨d.name, .referenced, true,
          some ("'" ++ d.name ++ "' is used by value but only forward declared")⟩

def classifyUse (t : SymbolTable) (context : String) : Usage → Option Verdict
  | .base name => some (classifyBase t context name)
  | .type type => classifyType t context type

def verdictsOf (t : SymbolTable) (d : Declaration String) : List (Site × Verdict) :=
  (usesOf d).filterMap fun (site, usage) => (classifyUse t d.name usage).map (site, ·)

def edgesOf (t : SymbolTable) (d : Declaration String) : List OwnershipEdge :=
  (verdictsOf t d).map fun (site, v) => ⟨d.name, site, v.target, v.ownership, v.resolved⟩

def useReport? (t : SymbolTable) (context : String) (usage : Usage) : Option Diagnostic :=
  ((classifyUse t context usage).bind (·.report)).map (.note .unresolvedReference context ·)

end Understudy
