import Understudy.Graph.Basic
import Understudy.Graph.Digraph
import Understudy.Ownership.Edge

/-! The classification of all type uses of a table.

The dependency order lists every declaration after those that it embeds. Uses by value in method
signatures ask for the same where that closes no cycle, since methods may name incomplete types.
-/

set_option autoImplicit false

namespace Understudy

open Understudy.Cpp

/-- The constraint of an owned use: the target comes before the declaration that uses it. -/
def OwnershipEdge.constraint (e : OwnershipEdge) : String × String := (e.target, e.source)

def hardGraph (names : List String) (edges : List OwnershipEdge) : Digraph :=
  (Digraph.empty.addNodes names).addEdges
    ((edges.filter fun e => e.isOwned && e.site.isHard).map (·.constraint))

/-- Add the constraint of a method use unless it closes a cycle. -/
def addSoft (g : Digraph) (e : OwnershipEdge) : Digraph :=
  if e.target == e.source || g.hasEdge e.constraint || g.hasPath e.source e.target then g
  else g.addEdge e.constraint

/-- All constraints that the order honours. -/
def constraintGraph (names : List String) (edges : List OwnershipEdge) : Digraph :=
  (edges.filter fun e => e.isOwned && !e.site.isHard).foldl addSoft (hardGraph names edges)

inductive OrderFault where
  | cycle (names : List String)
  | unordered
  | unfit (slip : Slip)
  deriving DecidableEq, Repr

def OrderFault.cycleMessage (names : List String) : String :=
  "Invalid ownership cycle: " ++ " -> ".intercalate (names ++ names.take 1)

def dependencyOrder (names : List String) (edges : List OwnershipEdge) :
    Except OrderFault (List String) :=
  match (hardGraph names edges).cycle? with
  | some cycle => .error (.cycle cycle)
  | none =>
    match (constraintGraph names edges).order? with
    | some order => .ok order
    | none => .error .unordered

def declarationNode (d : Declaration String) : Entries :=
  [("label", .text d.name), ("kind", .text d.label)]

/-- One edge per pair; an owned use wins over referenced ones. -/
def addRelation (g : Graph) (e : OwnershipEdge) : Graph :=
  let source := Value.text e.source
  let target := Value.text e.target
  let g :=
    if g.hasNode target then g
    else g.addNode target [("label", target), ("kind", .text "opaque")]
  if g.hasLink source target && !e.isOwned then g
  else g.addLink source target [("ownership", .text e.ownership.keyword)]

def relationshipGraph (declarations : List (Declaration String)) (edges : List OwnershipEdge) :
    Graph :=
  edges.foldl addRelation
    (declarations.foldl (fun g d => g.addNode (.text d.name) (declarationNode d)) .empty)

structure Classification where
  edges : List OwnershipEdge
  order : List String
  graph : Graph
  deriving DecidableEq, Repr

namespace SymbolTable

def ownershipEdges (t : SymbolTable) : List OwnershipEdge := t.declarations.flatMap (edgesOf t)

def uses (t : SymbolTable) : List (String × Usage) :=
  t.declarations.flatMap fun d => (usesOf d).map fun (_, usage) => (d.name, usage)

/-- Whether some use cannot be looked up. -/
def hasUnfitUse (t : SymbolTable) : Bool := t.uses.any fun (_, usage) => usage.isUnfit

/-- Report what classification finds unresolved or incomplete, up to the first use that cannot be
looked up. -/
def reportUses (t : SymbolTable) : SymbolTable :=
  let fit := t.uses.takeWhile fun (_, usage) => !usage.isUnfit
  { t with
    diagnostics := t.diagnostics.reportAll
      (fit.filterMap fun (context, usage) => useReport? t context usage) }

/-- Classify every use. What there is to report is reported even if no order exists. -/
def classify (t : SymbolTable) : SymbolTable × Except OrderFault Classification :=
  if t.hasUnfitUse then (t.reportUses, .error (.unfit .noMember))
  else
    let edges := t.ownershipEdges
    let order := dependencyOrder (t.declarations.map (·.name)) edges
    (t.reportUses, order.map fun order => ⟨edges, order, relationshipGraph t.declarations edges⟩)

end SymbolTable

namespace Classification

/-- The edge of a site; of several the last one counts. -/
def ofSite? (c : Classification) (source site : String) : Option OwnershipEdge :=
  c.edges.reverse.find? fun e => e.source == source && e.site.text == site

def ofField? (c : Classification) (source : String) (name : Value) : Option OwnershipEdge :=
  c.ofSite? source (Site.field name).text

def ofBase? (c : Classification) (source base : String) : Option OwnershipEdge :=
  c.ofSite? source (Site.base base).text

def edgesFrom (c : Classification) (source : String) : List OwnershipEdge :=
  c.edges.filter (·.source == source)

def ownedTargets (c : Classification) (source : String) : List String :=
  ((c.edgesFrom source).filter (·.isOwned)).map (·.target)

def position? (c : Classification) (name : String) : Option Nat := c.order.findIdx? (· == name)

/-- Names in dependency order; unknown ones come last as they were given. -/
def sort (c : Classification) (names : List String) : List String :=
  let rank (name : String) : Nat := (c.position? name).getD 0
  (names.filter fun n => (c.position? n).isSome).mergeSort (fun a b => rank a ≤ rank b)
    ++ names.filter fun n => (c.position? n).isNone

end Classification
end Understudy
