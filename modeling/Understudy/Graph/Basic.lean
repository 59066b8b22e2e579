import Understudy.Slip
import Understudy.Value.Alike

/-! Directed graphs with attributes.

Nodes and links stand in the order in which they were added. Between two nodes there is at most
one link each way. Values that count as one are one node, which goes by the value it was first
added as; a link keeps its ends as they were first given.
-/

set_option autoImplicit false

namespace Understudy

structure GraphNode where
  id : Value
  attributes : Entries
  deriving DecidableEq, Repr

structure GraphLink where
  source : Value
  target : Value
  attributes : Entries
  deriving DecidableEq, Repr

def GraphLink.joins (l : GraphLink) (source target : Value) : Bool :=
  l.source.alike source && l.target.alike target

structure Graph where
  nodes : List GraphNode
  links : List GraphLink
  deriving DecidableEq, Repr

def Entries.update (old new : Entries) : Entries := new.foldl (fun e (k, v) => Assoc.set e k v) old

namespace Graph

def empty : Graph := ⟨[], []⟩

/-- Why a value cannot be a node: nothing is none, and lists and objects cannot be looked up. -/
def nodeSlip? : Value → Option Slip
  | .null => some .badValue
  | .list _ | .object _ => some .wrongType
  | _ => none

def hasNode (g : Graph) (id : Value) : Bool := g.nodes.any (·.id.alike id)

def hasLink (g : Graph) (source target : Value) : Bool := g.links.any (·.joins source target)

def addNode (g : Graph) (id : Value) (attributes : Entries) : Graph :=
  if g.hasNode id then
    { g with nodes := g.nodes.map fun n =>
        if n.id.alike id then { n with attributes := Entries.update n.attributes attributes }
        else n }
  else { g with nodes := g.nodes ++ [⟨id, attributes⟩] }

def ensureNode (g : Graph) (id : Value) : Graph :=
  if g.hasNode id then g else { g with nodes := g.nodes ++ [⟨id, []⟩] }

/-- Add a link, and its ends where they are missing. A link that is there has its attributes
updated. -/
def addLink (g : Graph) (source target : Value) (attributes : Entries) : Graph :=
  let g := (g.ensureNode source).ensureNode target
  if g.hasLink source target then
    { g with links := g.links.map fun l =>
        if l.joins source target then
          { l with attributes := Entries.update l.attributes attributes }
        else l }
  else { g with links := g.links ++ [⟨source, target, attributes⟩] }

/-- Names that attributes of nodes cannot have: they mean the graph and the node itself. -/
def takenByNodes : List String := ["self", "node_for_adding"]

def takenByLinks : List String := ["self", "u_of_edge", "v_of_edge"]

def attributeSlip? (taken : List String) (attributes : Entries) : Option Slip :=
  if attributes.any fun (name, _) => taken.contains name then some .wrongType else none

def addNodeGiven (g : Graph) (id : Value) (attributes : Entries) : Except Slip Graph :=
  match (attributeSlip? takenByNodes attributes).or (nodeSlip? id) with
  | some slip => .error slip
  | none => .ok (g.addNode id attributes)

def addLinkGiven (g : Graph) (source target : Value) (attributes : Entries) : Except Slip Graph :=
  match (attributeSlip? takenByLinks attributes).or ((nodeSlip? source).or (nodeSlip? target)) with
  | some slip => .error slip
  | none => .ok (g.addLink source target attributes)

def linksFrom (g : Graph) (id : Value) : List GraphLink := g.links.filter (·.source.alike id)

def linksTo (g : Graph) (id : Value) : List GraphLink := g.links.filter (·.target.alike id)

def grouped (g : Graph) : List GraphLink :=
  g.nodes.flatMap fun n => (g.linksFrom n.id).map fun l => { l with source := n.id }

/-- The nodes that a value names: the node itself, or the distinct nodes among its parts. Nothing
at all names every node. -/
def selection? (g : Graph) (names : Value) : Option (List Value) :=
  if g.hasNode names then some [names]
  else
    match names with
    | .null => some (g.nodes.map (·.id))
    | v =>
      match v.parts? with
      | none => none
      | some parts =>
        if parts.all Value.isPlain then some (Value.distinct (parts.filter g.hasNode)) else none

end Graph
end Understudy
