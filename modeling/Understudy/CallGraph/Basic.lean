import Understudy.Cpp.Body
import Understudy.Graph.Basic
import Understudy.Ownership.Classification
import Understudy.Slip

/-! Call graphs: one link per pair of caller and callee, in the order in which they are first
seen. Callees without a body are external. -/

set_option autoImplicit false

namespace Understudy.CallGraph

open Understudy.Cpp

def kindOf? (bodies : List (FunctionBody String)) (name : Value) : Option Value :=
  (bodies.find? fun b => Value.text b.name == name).map (·.kind)

def nodeAttributes (bodies : List (FunctionBody String)) (name : Value) : Entries :=
  let kind := kindOf? bodies name
  [("label", name), ("kind", kind.getD (.text "external")), ("has_body", .bool kind.isSome)]

def meet (bodies : List (FunctionBody String)) (g : Graph) (name : Value) : Graph :=
  if g.hasNode name then g else g.addNode name (nodeAttributes bodies name)

def addCall (bodies : List (FunctionBody String)) (caller : Value) (g : Graph) (callee : Value) :
    Graph :=
  let g := meet bodies g callee
  if g.hasLink caller callee then g else g.addLink caller callee [("kind", .text "call")]

def addBody (bodies : List (FunctionBody String)) (g : Graph) (b : FunctionBody String) : Graph :=
  b.callees.foldl (addCall bodies (.text b.name)) (meet bodies g (.text b.name))

/-- The call graph of bodies: each body's node, then its callees in source order. -/
def ofBodies (bodies : List (FunctionBody String)) : Graph :=
  bodies.foldl (addBody bodies) .empty

def build (bodies : List (FunctionBody String)) : Except Slip Graph :=
  match (bodies.flatMap (·.callees)).findSome? Graph.nodeSlip? with
  | some slip => .error slip
  | none => .ok (ofBodies bodies)

def typeNode (n : GraphNode) : Entries :=
  [("label", (n.attributes.get? "label").getD .null),
   ("kind", (n.attributes.get? "kind").getD .null),
   ("has_body", .bool false)]

def overlay (g : Graph) (types : Graph) : Graph :=
  let g := types.nodes.foldl
    (fun g n => if g.hasNode n.id then g else g.addNode n.id (typeNode n)) g
  types.grouped.foldl
    (fun g l =>
      if g.hasLink l.source l.target then g
      else g.addLink l.source l.target [("kind", (l.attributes.get? "ownership").getD .null)]) g

def isCall (l : GraphLink) : Bool := l.attributes.get? "kind" == some (.text "call")

/-- What a name calls. A name that is no node stands for its parts. -/
def callees (g : Graph) (name : Value) : Except Slip (List Value) :=
  match g.selection? name with
  | some nodes => .ok ((nodes.flatMap g.linksFrom).filter isCall |>.map (·.target))
  | none => .error .unwritable

def callers (g : Graph) (name : Value) : Except Slip (List Value) :=
  match g.selection? name with
  | some nodes => .ok ((nodes.flatMap g.linksTo).filter isCall |>.map (·.source))
  | none => .error .unwritable

end Understudy.CallGraph
