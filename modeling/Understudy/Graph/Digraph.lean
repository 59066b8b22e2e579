import Understudy.Assoc

/-! Finite directed graphs of names: cycles, paths and topological orders.

Nodes and edges are kept in the order in which they were added, each once, and every search follows
them in that order.
-/

set_option autoImplicit false

namespace Understudy

structure Digraph where
  nodes : List String
  edges : List (String × String)
  deriving DecidableEq, Repr

namespace Digraph

def successors (g : Digraph) (v : String) : List String :=
  (g.edges.filter (·.1 == v)).map (·.2)

def predecessors (g : Digraph) (v : String) : List String :=
  (g.edges.filter (·.2 == v)).map (·.1)

def empty : Digraph := ⟨[], []⟩

def addNode (g : Digraph) (v : String) : Digraph :=
  if g.nodes.contains v then g else { g with nodes := g.nodes ++ [v] }

def addNodes (g : Digraph) (names : List String) : Digraph := names.foldl addNode g

def hasEdge (g : Digraph) (edge : String × String) : Bool := g.edges.contains edge

def addEdge (g : Digraph) (edge : String × String) : Digraph :=
  if g.hasEdge edge then g else { g with edges := g.edges ++ [edge] }

def addEdges (g : Digraph) (edges : List (String × String)) : Digraph := edges.foldl addEdge g

/-- The nodes of a cycle that closes at `v`, where `path` leads back from the current node: the
node after `v` comes first and `v` last. -/
def closeCycle (path : List String) (v : String) : List String :=
  (path.takeWhile (· != v)).reverse ++ [v]

/-- Search depth first from a node reached over `path`, which is listed backwards. The answer is
a cycle, or the nodes finished so far. The fuel bounds the length of the path. -/
def visit (g : Digraph) : Nat → List String → List String → String →
    Except (List String) (List String)
  | 0, _, finished, _ => .ok finished
  | fuel + 1, path, finished, v =>
    if path.contains v then .error (closeCycle path v)
    else if finished.contains v then .ok finished
    else do
      let finished ← (g.successors v).foldlM (g.visit fuel (v :: path)) finished
      return v :: finished

/-- The first cycle that a depth-first search from the nodes in their order closes. A path
without repetition has at most as many nodes as the graph. -/
def cycle? (g : Digraph) : Option (List String) :=
  match g.nodes.foldlM (g.visit (g.nodes.length + 1) []) [] with
  | .error cycle => some cycle
  | .ok _ => none

/-- The nodes met from a stack of nodes. Each step takes a node off the stack, and the fuel
bounds their number. -/
def reachedFrom (g : Digraph) : Nat → List String → List String → List String
  | 0, _, seen => seen
  | _ + 1, [], seen => seen
  | fuel + 1, v :: stack, seen =>
    if seen.contains v then g.reachedFrom fuel stack seen
    else g.reachedFrom fuel (g.successors v ++ stack) (v :: seen)

/-- Whether a path, possibly empty, leads from one node to another. Every edge is pushed at
most once. -/
def hasPath (g : Digraph) (source target : String) : Bool :=
  (g.reachedFrom (g.edges.length + 2) [source] []).contains target

/-- A sort under way: the nodes that wait for no other, earliest first, and how many predecessors
each of the rest waits for. -/
structure Sorting where
  queue : List String
  indegrees : Assoc Nat
  deriving DecidableEq, Repr

def indegree (g : Digraph) (v : String) : Nat := (g.predecessors v).length

def sorting (g : Digraph) : Sorting where
  queue := g.nodes.filter (g.indegree · == 0)
  indegrees := (g.nodes.filter (g.indegree · != 0)).map fun v => (v, g.indegree v)

def isEarlier (g : Digraph) (u v : String) : Bool := g.nodes.idxOf u < g.nodes.idxOf v

/-- Put a node into the queue, where the nodes stand as they do in the graph. -/
def enqueue (g : Digraph) (v : String) (queue : List String) : List String :=
  queue.takeWhile (g.isEarlier · v) ++ v :: queue.dropWhile (g.isEarlier · v)

def countDown (g : Digraph) (s : Sorting) (v : String) : Sorting :=
  match s.indegrees.get? v with
  | none => s
  | some n =>
    if n ≤ 1 then { queue := g.enqueue v s.queue, indegrees := s.indegrees.erase v }
    else { s with indegrees := s.indegrees.set v (n - 1) }

/-- Place the queued nodes one by one. No order is found if others still wait at the end. -/
def drain (g : Digraph) : Nat → Sorting → Option (List String)
  | _, ⟨[], indegrees⟩ => if indegrees.isEmpty then some [] else none
  | 0, ⟨_ :: _, _⟩ => none
  | fuel + 1, ⟨v :: queue, indegrees⟩ =>
    (g.drain fuel ((g.successors v).foldl g.countDown ⟨queue, indegrees⟩)).map (v :: ·)

/-- The topological order that prefers earlier nodes, none for a cyclic graph. Every node is placed
at most once. -/
def order? (g : Digraph) : Option (List String) := g.drain g.nodes.length g.sorting

end Digraph
end Understudy
