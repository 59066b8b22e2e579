import Mathlib.Data.List.Pairwise
import Understudy.CallGraph.Basic

/-! What a call graph shows of the bodies it is made of.

Names become nodes when they are first met, which may be as callees, long before their own bodies.
Main statement: nodes, attributes and links are those that the bodies give when each is read from
its name through its calls, arguments behind their calls.
-/

set_option autoImplicit false

namespace Understudy

open Understudy.Cpp

namespace Value

theorem alike_eq_of_alike {a b : Value} (same : alike a b = true) (v : Value) :
    alike v a = alike v b := by
  rw [Bool.eq_iff_iff, alike_iff, alike_iff, alike_iff.mp same]

theorem any_distinct (vs : List Value) (v : Value) :
    (distinct vs).any (·.alike v) = vs.any (·.alike v) := by
  induction vs with
  | nil => rfl
  | cons w rest ih =>
    rw [distinct, List.any_cons, List.any_cons, List.any_filter, ← ih]
    cases first : alike w v with
    | true => rfl
    | false =>
      -- What is left out is like the head, and so is not what is asked for.
      rw [Bool.false_or, Bool.false_or]
      congr 1
      funext x
      cases same : alike x v with
      | false => rw [Bool.and_false]
      | true => rw [alike_eq_of_alike same, first, Bool.not_false, Bool.and_true]

theorem mem_of_mem_distinct {vs : List Value} {v : Value} (kept : v ∈ distinct vs) :
    v ∈ vs := by
  induction vs with
  | nil => exact kept
  | cons w vs ih =>
    rw [distinct, List.mem_cons, List.mem_filter] at kept
    rcases kept with rfl | ⟨later, _⟩
    · exact List.mem_cons_self
    · exact List.mem_cons_of_mem _ (ih later)

theorem distinct_concat (vs : List Value) (v : Value) :
    distinct (vs ++ [v]) = if vs.any (·.alike v) then distinct vs else distinct vs ++ [v] := by
  induction vs with
  | nil => rfl
  | cons w rest ih =>
    rw [List.cons_append, distinct, distinct, ih, List.any_cons]
    cases later : rest.any (·.alike v) with
    | true => simp
    | false => cases first : alike w v <;> simp [first]

end Value

namespace Cpp.CallSite

mutual

/-- The callees of a call: its own, then those of its arguments from left to right. -/
def preorder : CallSite → List Value
  | mk callee _ arguments => callee :: preorderAll arguments

def preorderAll : List CallSite → List Value
  | [] => []
  | call :: rest => preorder call ++ preorderAll rest

end

theorem preorderAll_append (calls more : List CallSite) :
    preorderAll (calls ++ more) = preorderAll calls ++ preorderAll more := by
  induction calls with
  | nil => rfl
  | cons call rest ih => rw [List.cons_append, preorderAll, preorderAll, ih, List.append_assoc]

theorem preorder_eq (call : CallSite) :
    call.preorder = call.callee :: preorderAll call.arguments := by
  cases call
  rw [preorder]
  rfl

theorem map_callee_unstack (stack : List CallSite) :
    (unstack stack).map (·.callee) = preorderAll stack := by
  fun_induction unstack stack with
  | case1 => rfl
  | case2 call stack ih =>
    rw [push_eq, preorderAll_append] at ih
    rw [List.map_cons, push_eq, ih, preorderAll, preorder_eq]
    rfl

end Cpp.CallSite

theorem Cpp.FunctionBody.callees_eq {ν : Type} (b : FunctionBody ν) :
    b.callees = CallSite.preorderAll b.calls := by
  rw [callees, CallSite.sites, CallSite.map_callee_unstack, CallSite.push_eq, List.append_nil]

namespace CallGraph

variable {bodies : List (FunctionBody String)}

def mentioned (bodies : List (FunctionBody String)) : List Value :=
  bodies.flatMap fun b => .text b.name :: CallSite.preorderAll b.calls

def calledBy (bodies : List (FunctionBody String)) (caller : String) : List Value :=
  (bodies.filter (·.name == caller)).flatMap fun b => CallSite.preorderAll b.calls

/-- How a node is marked: by the first body of its name, or as external if there is none. -/
inductive IsMarked (bodies : List (FunctionBody String)) : GraphNode → Prop where
  | defined {before after : List (FunctionBody String)} {b : FunctionBody String} :
      bodies = before ++ b :: after → (∀ other ∈ before, other.name ≠ b.name) →
        IsMarked bodies ⟨.text b.name,
          [("label", .text b.name), ("kind", b.kind), ("has_body", .bool true)]⟩
  | external {name : Value} : (∀ b ∈ bodies, .text b.name ≠ name) →
      IsMarked bodies ⟨name,
        [("label", name), ("kind", .text "external"), ("has_body", .bool false)]⟩

/-- The graph that bodies give. -/
structure IsCallGraph (bodies : List (FunctionBody String)) (g : Graph) : Prop where
  /-- Nodes are the names in the order in which they first occur. -/
  nodes : g.nodes.map (·.id) = Value.distinct (mentioned bodies)
  marked : ∀ n ∈ g.nodes, IsMarked bodies n
  /-- Successors are the callees in the order in which they first occur. -/
  successors : ∀ caller : String,
    (g.linksFrom (.text caller)).map (·.target) = Value.distinct (calledBy bodies caller)
  calls : ∀ l ∈ g.links, l.attributes = [("kind", .text "call")] ∧
    ∃ b ∈ bodies, l.source = .text b.name
  once : g.links.Pairwise fun l later => ¬ l.joins later.source later.target = true

/-! ## Drawing -/

def targetsOf (calls : List (Value × Value)) (caller : Value) : List Value :=
  (calls.filter (·.1.alike caller)).map (·.2)

theorem targetsOf_congr (calls : List (Value × Value)) {caller other : Value}
    (same : caller.alike other = true) : targetsOf calls caller = targetsOf calls other := by
  unfold targetsOf
  congr 2
  funext c
  exact Value.alike_eq_of_alike same c.1

theorem targetsOf_append (calls more : List (Value × Value)) (caller : Value) :
    targetsOf (calls ++ more) caller = targetsOf calls caller ++ targetsOf more caller := by
  simp [targetsOf]

theorem targetsOf_concat (calls : List (Value × Value)) (caller callee other : Value) :
    targetsOf (calls ++ [(caller, callee)]) other =
      if caller.alike other then targetsOf calls caller ++ [callee] else targetsOf calls other := by
  rw [targetsOf_append]
  cases same : caller.alike other with
  | true =>
    rw [if_pos rfl, targetsOf_congr calls same]
    simp [targetsOf, same]
  | false => simp [targetsOf, same]

/-- A graph in the making: the names met so far are its nodes, and the calls met so far its links.
Marks are those that all bodies give. -/
structure Drawn (bodies : List (FunctionBody String)) (names : List Value)
    (calls : List (Value × Value)) (g : Graph) : Prop where
  nodes : g.nodes = (Value.distinct names).map fun v => ⟨v, nodeAttributes bodies v⟩
  successors : ∀ caller,
    (g.linksFrom caller).map (·.target) = Value.distinct (targetsOf calls caller)
  calls : ∀ l ∈ g.links, l.attributes = [("kind", .text "call")] ∧ ∃ c ∈ calls, l.source = c.1
  once : g.links.Pairwise fun l later => ¬ l.joins later.source later.target = true

variable {names : List Value} {calls : List (Value × Value)} {g : Graph}

theorem drawn_empty (bodies : List (FunctionBody String)) : Drawn bodies [] [] .empty :=
  ⟨rfl, fun _ => rfl, by simp [Graph.empty], .nil⟩

theorem Drawn.hasNode_eq (drawn : Drawn bodies names calls g) (v : Value) :
    g.hasNode v = names.any (·.alike v) := by
  rw [← Value.any_distinct, Graph.hasNode, drawn.nodes, List.any_map]
  rfl

theorem Drawn.hasLink_eq (drawn : Drawn bodies names calls g) (caller callee : Value) :
    g.hasLink caller callee = (targetsOf calls caller).any (·.alike callee) := by
  rw [← Value.any_distinct, ← drawn.successors caller, List.any_map, Graph.linksFrom,
    List.any_filter]
  rfl

theorem Drawn.meet (drawn : Drawn bodies names calls g) (v : Value) :
    Drawn bodies (names ++ [v]) calls (meet bodies g v) := by
  unfold CallGraph.meet
  have known := drawn.hasNode_eq v
  split
  next here =>
    rw [here] at known
    refine { drawn with nodes := ?_ }
    rw [Value.distinct_concat, ← known, if_pos rfl, drawn.nodes]
  next new =>
    rw [Bool.not_eq_true] at new
    rw [new] at known
    unfold Graph.addNode
    rw [new]
    refine { drawn with nodes := ?_ }
    rw [Value.distinct_concat, ← known]
    simp [drawn.nodes]

theorem Drawn.link (drawn : Drawn bodies names calls g) {caller callee : Value}
    (source : g.hasNode caller = true) (target : g.hasNode callee = true) :
    Drawn bodies names (calls ++ [(caller, callee)])
      (if g.hasLink caller callee then g
        else g.addLink caller callee [("kind", .text "call")]) := by
  have known := drawn.hasLink_eq caller callee
  have old : ∀ l ∈ g.links, l.attributes = [("kind", .text "call")] ∧
      ∃ c ∈ calls ++ [(caller, callee)], l.source = c.1 := by
    intro l member
    obtain ⟨attributes, c, listed, same⟩ := drawn.calls l member
    exact ⟨attributes, c, List.mem_append_left _ listed, same⟩
  -- Only the links of this caller change, and they grow by the callee unless it is among them.
  have before (other : Value) (same : caller.alike other = true) :
      (g.linksFrom other).map (·.target) = Value.distinct (targetsOf calls caller) := by
    rw [targetsOf_congr calls same, drawn.successors]
  split
  next here =>
    rw [here] at known
    refine ⟨drawn.nodes, fun other => ?_, old, drawn.once⟩
    rw [targetsOf_concat]
    split
    next same => rw [Value.distinct_concat, ← known, if_pos rfl, before other same]
    next => exact drawn.successors other
  next new =>
    rw [Bool.not_eq_true] at new
    have grown : g.addLink caller callee [("kind", .text "call")] =
        { g with links := g.links ++ [⟨caller, callee, [("kind", .text "call")]⟩] } := by
      simp [Graph.addLink, Graph.ensureNode, source, target, new]
    rw [new] at known
    rw [grown]
    refine ⟨drawn.nodes, fun other => ?_, ?_, ?_⟩
    · rw [targetsOf_concat]
      cases same : caller.alike other with
      | true =>
        rw [if_pos rfl, Value.distinct_concat, ← known, ← before other same]
        simp [Graph.linksFrom, same]
      | false =>
        simpa [Graph.linksFrom, same] using drawn.successors other
    · intro l member
      rcases List.mem_append.mp member with earlier | here
      · exact old l earlier
      · rw [List.mem_singleton.mp here]
        exact ⟨rfl, (caller, callee), by simp, rfl⟩
    · rw [List.pairwise_append]
      refine ⟨drawn.once, List.pairwise_singleton _ _, ?_⟩
      intro l earlier later here joins
      rw [List.mem_singleton.mp here] at joins
      rw [Graph.hasLink, List.any_eq_false] at new
      exact new l earlier joins

theorem Drawn.addCall (drawn : Drawn bodies names calls g) {caller : Value}
    (source : caller ∈ names) (callee : Value) :
    Drawn bodies (names ++ [callee]) (calls ++ [(caller, callee)])
      (addCall bodies caller g callee) := by
  have met := drawn.meet callee
  refine met.link ?_ ?_
  · rw [met.hasNode_eq, List.any_eq_true]
    exact ⟨caller, List.mem_append_left _ source, Value.alike_refl caller⟩
  · rw [met.hasNode_eq, List.any_eq_true]
    exact ⟨callee, by simp, Value.alike_refl callee⟩

theorem Drawn.addCalls (drawn : Drawn bodies names calls g) {caller : Value}
    (source : caller ∈ names) (callees : List Value) :
    Drawn bodies (names ++ callees) (calls ++ callees.map (caller, ·))
      (callees.foldl (CallGraph.addCall bodies caller) g) := by
  induction callees generalizing names calls g with
  | nil => simpa using drawn
  | cons callee rest ih =>
    have next := ih (drawn.addCall source callee) (List.mem_append_left _ source)
    rwa [List.append_assoc, List.append_assoc] at next

theorem Drawn.addBody (drawn : Drawn bodies names calls g) (b : FunctionBody String) :
    Drawn bodies (names ++ .text b.name :: CallSite.preorderAll b.calls)
      (calls ++ (CallSite.preorderAll b.calls).map (.text b.name, ·)) (addBody bodies g b) := by
  rw [CallGraph.addBody, b.callees_eq]
  have body := (drawn.meet (.text b.name)).addCalls (List.mem_append_right _ List.mem_cons_self)
    (CallSite.preorderAll b.calls)
  rwa [List.append_assoc] at body

theorem Drawn.addBodies (drawn : Drawn bodies names calls g)
    (rest : List (FunctionBody String)) :
    Drawn bodies (names ++ mentioned rest)
      (calls ++ rest.flatMap fun b => (CallSite.preorderAll b.calls).map (.text b.name, ·))
      (rest.foldl (CallGraph.addBody bodies) g) := by
  induction rest generalizing names calls g with
  | nil => simpa [mentioned] using drawn
  | cons b rest ih =>
    have next := ih (drawn.addBody b)
    rwa [List.append_assoc, List.append_assoc] at next

theorem targetsOf_calls (bodies : List (FunctionBody String)) (caller : String) :
    targetsOf (bodies.flatMap fun b => (CallSite.preorderAll b.calls).map (.text b.name, ·))
      (.text caller) = calledBy bodies caller := by
  induction bodies with
  | nil => rfl
  | cons b rest ih =>
    rw [List.flatMap_cons, targetsOf_append, ih]
    unfold calledBy
    by_cases own : b.name = caller
    · rw [List.filter_cons_of_pos (by simpa using own), List.flatMap_cons]
      congr 1
      simp [targetsOf, List.filter_map, List.map_map, Function.comp_def, own]
    · rw [List.filter_cons_of_neg (by simpa using own)]
      simp [targetsOf, List.filter_map, Function.comp_def, own]

theorem isMarked_node (bodies : List (FunctionBody String)) (name : Value) :
    IsMarked bodies ⟨name, nodeAttributes bodies name⟩ := by
  unfold nodeAttributes kindOf?
  cases found : bodies.find? fun b => Value.text b.name == name with
  | none =>
    refine .external fun b member => ?_
    simpa using List.find?_eq_none.mp found b member
  | some b =>
    obtain ⟨own, before, after, rfl, earlier⟩ := List.find?_eq_some_iff_append.mp found
    obtain rfl := beq_iff_eq.mp own
    refine .defined rfl fun other member same => ?_
    simpa [same] using earlier other member

theorem isCallGraph_ofBodies (bodies : List (FunctionBody String)) :
    IsCallGraph bodies (ofBodies bodies) := by
  have drawn := (drawn_empty bodies).addBodies bodies
  rw [List.nil_append, List.nil_append] at drawn
  change Drawn _ _ _ (ofBodies bodies) at drawn
  refine ⟨?nodes, ?marked, fun caller => ?successors, ?calls, drawn.once⟩
  case nodes =>
    rw [drawn.nodes, List.map_map]
    exact List.map_id _
  case marked =>
    rw [drawn.nodes, List.forall_mem_map]
    exact fun name _ => isMarked_node bodies name
  case successors =>
    rw [← targetsOf_calls]
    exact drawn.successors (.text caller)
  case calls =>
    intro l member
    obtain ⟨attributes, c, listed, same⟩ := drawn.calls l member
    obtain ⟨b, own, called⟩ := List.mem_flatMap.mp listed
    obtain ⟨callee, _, rfl⟩ := List.mem_map.mp called
    exact ⟨attributes, b, own, same⟩

theorem build_eq (fit : ∀ b ∈ bodies, ∀ callee ∈ CallSite.preorderAll b.calls,
    Graph.nodeSlip? callee = none) : build bodies = .ok (ofBodies bodies) := by
  have sound : (bodies.flatMap (·.callees)).findSome? Graph.nodeSlip? = none := by
    rw [List.findSome?_eq_none_iff]
    intro callee member
    obtain ⟨b, own, called⟩ := List.mem_flatMap.mp member
    rw [b.callees_eq] at called
    exact fit b own callee called
  rw [build, sound]

/-- Bodies of whose callees each can be a node have a call graph, and it is the one they give. -/
theorem build_isCallGraph
    (fit : ∀ b ∈ bodies, ∀ callee ∈ CallSite.preorderAll b.calls,
      Graph.nodeSlip? callee = none) :
    ∃ g, build bodies = .ok g ∧ IsCallGraph bodies g :=
  ⟨ofBodies bodies, build_eq fit, isCallGraph_ofBodies bodies⟩

/-- A body that calls one whose body comes later, twice and in an argument, and that has a second
body itself. -/
def entangled : List (FunctionBody String) :=
  [⟨"main", .text "function",
      [.mk (.text "log") [] [.mk (.text "run") [] []], .mk (.text "run") [] []], .null⟩,
   ⟨"run", .text "method", [.mk (.text "main") [] []], .null⟩,
   ⟨"main", .text "lambda", [.mk (.text "main") [] []], .null⟩]

theorem build_isCallGraph_entangled :
    (∀ b ∈ entangled, ∀ callee ∈ CallSite.preorderAll b.calls, Graph.nodeSlip? callee = none) ∧
      (∃ g, build entangled = .ok g ∧ IsCallGraph entangled g) ∧
        mentioned entangled =
            ["main", "log", "run", "run", "run", "main", "main", "main"].map .text ∧
          calledBy entangled "main" = ["log", "run", "run", "main"].map .text :=
  have fit : ∀ b ∈ entangled, ∀ callee ∈ CallSite.preorderAll b.calls,
      Graph.nodeSlip? callee = none := by
    decide +kernel
  ⟨fit, build_isCallGraph fit, by decide +kernel, by decide +kernel⟩

end CallGraph
end Understudy
