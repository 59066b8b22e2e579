import Mathlib.Data.List.Flatten
import Understudy.Proofs.CallGraph.Calls
import Understudy.Proofs.Outcome
import Understudy.Proofs.Ownership.RelationGraph

/-! Relations of declarations laid over a call graph.

Functions and declarations share their names, so nodes and links may be there already. Main
statement: what is there stays as and where it is, what is missing comes behind it, and calls are
seen as before from both of their ends.
-/

set_option autoImplicit false

namespace Understudy

open Understudy.Cpp

/-! ## Graphs that hold nothing twice -/

namespace Graph

variable {g : Graph}

/-- A graph in which nodes are apart, and so are links. -/
structure IsSimple (g : Graph) : Prop where
  nodes : g.nodes.Pairwise fun n m => n.id.alike m.id = false
  links : g.links.Pairwise fun l k => l.joins k.source k.target = false

theorem isSimple_empty : IsSimple .empty := ⟨.nil, .nil⟩

theorem IsSimple.addNode (simple : g.IsSimple) (id : Value) (attributes : Entries) :
    (g.addNode id attributes).IsSimple := by
  unfold Graph.addNode
  split
  next =>
    refine ⟨List.pairwise_map.mpr (simple.nodes.imp fun {n m} apart => ?_), simple.links⟩
    split <;> split <;> exact apart
  next new =>
    refine ⟨List.pairwise_append.mpr ⟨simple.nodes, List.pairwise_singleton _ _, ?_⟩, simple.links⟩
    intro n inside m last
    rw [List.mem_singleton.mp last]
    rw [hasNode, Bool.not_eq_true, List.any_eq_false] at new
    exact Bool.eq_false_iff.mpr (new n inside)

theorem ensureNode_eq (g : Graph) (id : Value) :
    g.ensureNode id = if g.hasNode id then g else g.addNode id [] := by
  unfold ensureNode Graph.addNode
  split <;> rfl

theorem IsSimple.ensureNode (simple : g.IsSimple) (id : Value) : (g.ensureNode id).IsSimple := by
  rw [ensureNode_eq]
  split
  · exact simple
  · exact simple.addNode id []

theorem IsSimple.addLink (simple : g.IsSimple) (source target : Value) (attributes : Entries) :
    (g.addLink source target attributes).IsSimple := by
  have ends := (simple.ensureNode source).ensureNode target
  unfold Graph.addLink
  dsimp only
  split
  next =>
    refine ⟨ends.nodes, List.pairwise_map.mpr (ends.links.imp fun {l k} apart => ?_)⟩
    split <;> split <;> exact apart
  next new =>
    refine ⟨ends.nodes, List.pairwise_append.mpr ⟨ends.links, List.pairwise_singleton _ _, ?_⟩⟩
    intro l inside k last
    rw [List.mem_singleton.mp last]
    rw [hasLink, Bool.not_eq_true, List.any_eq_false] at new
    exact Bool.eq_false_iff.mpr (new l inside)

theorem IsSimple.grouped (simple : g.IsSimple) :
    g.grouped.Pairwise fun l k => l.joins k.source k.target = false := by
  unfold Graph.grouped
  rw [List.pairwise_flatMap]
  constructor
  · intro n _
    rw [List.pairwise_map]
    refine List.Pairwise.imp_of_mem ?_ (simple.links.sublist List.filter_sublist)
    intro l k leaves also apart
    rw [linksFrom, List.mem_filter] at leaves also
    have same : l.source.alike k.source = true :=
      Value.alike_trans leaves.2 (by rw [Value.alike_comm, also.2])
    simpa [GraphLink.joins, same] using apart
  · refine simple.nodes.imp fun {n m} apart => ?_
    simp only [List.forall_mem_map]
    intro l _ k _
    rw [GraphLink.joins, apart, Bool.false_and]

end Graph

theorem isSimple_relationshipGraph (declarations : List (Declaration String))
    (edges : List OwnershipEdge) : (relationshipGraph declarations edges).IsSimple := by
  have declared : Graph.IsSimple (declarations.foldl
      (fun g d => g.addNode (.text d.name) (declarationNode d)) .empty) :=
    List.foldlRecOn declarations _ Graph.isSimple_empty fun g simple d _ => simple.addNode _ _
  refine List.foldlRecOn edges _ declared fun g simple e _ => ?_
  have related (h : Graph) (apart : h.IsSimple) : Graph.IsSimple
      (if h.hasLink (.text e.source) (.text e.target) && !e.isOwned then h
        else h.addLink (.text e.source) (.text e.target)
          [("ownership", .text e.ownership.keyword)]) := by
    split
    · exact apart
    · exact apart.addLink _ _ _
  refine related _ ?_
  split
  · exact simple
  · exact simple.addNode _ _

namespace CallGraph

variable {g types : Graph} {ns : List GraphNode} {ls : List GraphLink}

/-! ## Laying over -/

theorem foldl_overlayNode (apart : ns.Pairwise fun n m => n.id.alike m.id = false) (g : Graph) :
    ns.foldl (fun g n => if g.hasNode n.id then g else g.addNode n.id (typeNode n)) g =
      ⟨g.nodes ++ (ns.filter fun n => !g.hasNode n.id).map fun n => ⟨n.id, typeNode n⟩,
        g.links⟩ := by
  induction ns generalizing g with
  | nil => simp
  | cons n rest ih =>
    obtain ⟨first, later⟩ := List.pairwise_cons.mp apart
    rw [List.foldl_cons, ih later]
    cases known : g.hasNode n.id with
    | true => simp [known]
    | false =>
      -- The node that was added is none of those that follow.
      have same : rest.filter (fun m => !(g.addNode n.id (typeNode n)).hasNode m.id) =
          rest.filter fun m => !g.hasNode m.id := by
        refine List.filter_congr fun m inside => ?_
        rw [Graph.hasNode_addNode, first m inside, Bool.or_false]
      simp only [Bool.false_eq_true, if_false, same]
      simp [Graph.addNode, known]

def relationLink (l : GraphLink) : GraphLink :=
  ⟨l.source, l.target, [("kind", (l.attributes.get? "ownership").getD .null)]⟩

theorem foldl_overlayLink (apart : ls.Pairwise fun l k => l.joins k.source k.target = false)
    (g : Graph) (ends : ∀ l ∈ ls, g.hasNode l.source = true ∧ g.hasNode l.target = true) :
    ls.foldl (fun g l =>
      if g.hasLink l.source l.target then g
      else g.addLink l.source l.target (relationLink l).attributes) g =
      ⟨g.nodes, g.links ++ (ls.filter fun l => !g.hasLink l.source l.target).map relationLink⟩ := by
  induction ls generalizing g with
  | nil => simp
  | cons l rest ih =>
    obtain ⟨first, later⟩ := List.pairwise_cons.mp apart
    obtain ⟨⟨source, target⟩, others⟩ := List.forall_mem_cons.mp ends
    rw [List.foldl_cons]
    cases known : g.hasLink l.source l.target with
    | true =>
      rw [if_pos rfl, ih later g others]
      simp [known]
    | false =>
      let grown : Graph := ⟨g.nodes, g.links ++ [relationLink l]⟩
      have added : g.addLink l.source l.target (relationLink l).attributes = grown := by
        rw [Graph.addLink_eq source target, known]
        rfl
      -- The link that was added is none of those that follow.
      have same : rest.filter (fun k => !grown.hasLink k.source k.target) =
          rest.filter fun k => !g.hasLink k.source k.target := by
        refine List.filter_congr fun k inside => ?_
        have other : grown.hasLink k.source k.target =
            (g.hasLink k.source k.target || l.joins k.source k.target) := by
          simp [grown, Graph.hasLink, GraphLink.joins, relationLink]
        rw [other, first k inside, Bool.or_false]
      rw [if_neg Bool.false_ne_true, added, ih later grown others, same]
      simp [grown, known]

theorem mem_grouped_iff (made : types.IsMadeOf IsTypeNode IsTypeLink) {l : GraphLink} :
    l ∈ types.grouped ↔ l ∈ types.links :=
  made.mem_grouped fun _ ⟨id, _, _, same⟩ => ⟨id, same ▸ rfl⟩

theorem hasNode_append_missing (links : List GraphLink) (v : Value) :
    Graph.hasNode ⟨g.nodes ++ (types.nodes.filter fun n => !g.hasNode n.id).map
      fun n => ⟨n.id, typeNode n⟩, links⟩ v = (g.hasNode v || types.hasNode v) := by
  have split : Graph.hasNode ⟨g.nodes ++ (types.nodes.filter fun n => !g.hasNode n.id).map
      fun n => ⟨n.id, typeNode n⟩, links⟩ v =
      (g.hasNode v || types.nodes.any fun n => !g.hasNode n.id && n.id.alike v) := by
    rw [Graph.hasNode, List.any_append, List.any_map, List.any_filter]
    rfl
  rw [split]
  cases before : g.hasNode v with
  | true => rfl
  | false =>
    rw [Bool.false_or, Bool.false_or]
    refine List.any_congr rfl fun n => ?_
    cases like : n.id.alike v with
    | false => rw [Bool.and_false]
    | true =>
      have same : g.hasNode n.id = g.hasNode v := by
        simp only [Graph.hasNode, Value.alike_eq_of_alike like]
      rw [same, before]
      rfl

theorem hasLink_append_missing (nodes : List GraphNode) (source target : Value) :
    Graph.hasLink ⟨nodes, g.links ++
      (ls.filter fun l => !g.hasLink l.source l.target).map relationLink⟩ source target =
      (g.hasLink source target || ls.any (·.joins source target)) := by
  have split : Graph.hasLink ⟨nodes, g.links ++
      (ls.filter fun l => !g.hasLink l.source l.target).map relationLink⟩ source target =
      (g.hasLink source target ||
        ls.any fun l => !g.hasLink l.source l.target && l.joins source target) := by
    rw [Graph.hasLink, List.any_append, List.any_map, List.any_filter]
    rfl
  rw [split]
  cases before : g.hasLink source target with
  | true => rfl
  | false =>
    rw [Bool.false_or, Bool.false_or]
    refine List.any_congr rfl fun l => ?_
    cases joins : l.joins source target with
    | false => rw [Bool.and_false]
    | true =>
      obtain ⟨leaves, arrives⟩ := Bool.and_eq_true_iff.mp joins
      have same : g.hasLink l.source l.target = g.hasLink source target := by
        simp only [Graph.hasLink, GraphLink.joins, Value.alike_eq_of_alike leaves,
          Value.alike_eq_of_alike arrives]
      rw [same, before]
      rfl

theorem overlay_eq (simple : types.IsSimple) (made : types.IsMadeOf IsTypeNode IsTypeLink)
    (g : Graph) :
    overlay g types =
      ⟨g.nodes ++ (types.nodes.filter fun n => !g.hasNode n.id).map fun n => ⟨n.id, typeNode n⟩,
        g.links ++
          (types.grouped.filter fun l => !g.hasLink l.source l.target).map relationLink⟩ := by
  unfold overlay
  rw [foldl_overlayNode simple.nodes g]
  -- All declarations are nodes by now, and relations join declarations.
  refine foldl_overlayLink simple.grouped _ fun l inside => ?_
  obtain ⟨source, target⟩ := made.joined l ((mem_grouped_iff made).mp inside)
  rw [hasNode_append_missing, hasNode_append_missing, source, target, Bool.or_true, Bool.or_true]
  exact ⟨rfl, rfl⟩

theorem overlay_eq_self (simple : types.IsSimple) (made : types.IsMadeOf IsTypeNode IsTypeLink)
    (nodes : ∀ n ∈ types.nodes, g.hasNode n.id = true)
    (links : ∀ l ∈ types.grouped, g.hasLink l.source l.target = true) : overlay g types = g := by
  have named : types.nodes.filter (fun n => !g.hasNode n.id) = [] :=
    List.filter_eq_nil_iff.mpr (by simpa using nodes)
  have joined : types.grouped.filter (fun l => !g.hasLink l.source l.target) = [] :=
    List.filter_eq_nil_iff.mpr (by simpa using links)
  rw [overlay_eq simple made, named, joined, List.map_nil, List.map_nil, List.append_nil,
    List.append_nil]

/-! ## What is seen of it -/

/-- A call graph with the relations of declarations laid over it. -/
structure LaysOver (types g h : Graph) : Prop where
  /-- All nodes stay as and where they are, and the declarations that are missing come last. -/
  nodes : h.nodes = g.nodes ++ (types.nodes.filter fun n => !g.hasNode n.id).map fun n =>
    ⟨n.id, n.attributes ++ [("has_body", .bool false)]⟩
  /-- So do links, and the relations of pairs that no call joins come last. -/
  links : h.links = g.links ++
    (types.grouped.filter fun l => !g.hasLink l.source l.target).map fun l =>
      ⟨l.source, l.target, l.attributes.map fun (_, binding) => ("kind", binding)⟩
  /-- Links that are listed by their sources keep their order, too. -/
  grouped : g.grouped.Sublist h.grouped
  calls : ∀ l ∈ g.links, isCall l = true
  relations : ∀ l, l ∈ types.grouped ↔ l ∈ types.links
  bindings : ∀ l ∈ types.links, ∃ binding : Ownership,
    l.attributes = [("ownership", .text binding.keyword)]
  hasNode : ∀ v, h.hasNode v = (g.hasNode v || types.hasNode v)
  hasLink : ∀ source target,
    h.hasLink source target = (g.hasLink source target || types.hasLink source target)
  callees : ∀ v, g.hasNode v = true → callees h v = callees g v
  callers : ∀ v, g.hasNode v = true → callers h v = callers g v
  /-- To lay the relations over once more changes nothing. -/
  again : overlay h types = h

theorem isCall_relationLink {l : GraphLink} (formed : IsTypeLink l) :
    isCall (relationLink l) = false := by
  obtain ⟨_, _, binding, rfl⟩ := formed
  cases binding <;> rfl

theorem callees_of_hasNode {v : Value} (known : g.hasNode v = true) :
    callees g v = .ok (((g.linksFrom v).filter isCall).map (·.target)) := by
  simp [callees, Graph.selection?, known]

theorem callers_of_hasNode {v : Value} (known : g.hasNode v = true) :
    callers g v = .ok (((g.linksTo v).filter isCall).map (·.source)) := by
  simp [callers, Graph.selection?, known]

theorem filter_isCall_append {links more : List GraphLink} (quiet : ∀ l ∈ more, isCall l = false)
    (p : GraphLink → Bool) :
    ((links ++ more).filter p).filter isCall = (links.filter p).filter isCall := by
  have none : (more.filter p).filter isCall = [] := by
    rw [List.filter_eq_nil_iff]
    intro l inside
    rw [quiet l (List.mem_of_mem_filter inside)]
    exact Bool.false_ne_true
  rw [List.filter_append, List.filter_append, none, List.append_nil]

theorem grouped_sublist (nodes : List GraphNode) (links : List GraphLink) :
    g.grouped.Sublist (Graph.grouped ⟨g.nodes ++ nodes, g.links ++ links⟩) := by
  unfold Graph.grouped
  rw [List.flatMap_append]
  refine (List.Sublist.flatMap_right g.nodes fun n _ => ?_).trans (List.sublist_append_left _ _)
  exact ((List.sublist_append_left _ _).filter _).map _

theorem laysOver_overlay (simple : types.IsSimple) (made : types.IsMadeOf IsTypeNode IsTypeLink)
    (calls : ∀ l ∈ g.links, isCall l = true) : LaysOver types g (overlay g types) := by
  have whole := overlay_eq simple made g
  have formed (l) (inside : l ∈ types.grouped) : IsTypeLink l :=
    made.links l ((mem_grouped_iff made).mp inside)
  have named (v : Value) : (overlay g types).hasNode v = (g.hasNode v || types.hasNode v) := by
    rw [whole, hasNode_append_missing]
  have joined (source target : Value) : (overlay g types).hasLink source target =
      (g.hasLink source target || types.grouped.any (·.joins source target)) := by
    rw [whole, hasLink_append_missing]
  -- Relations are told from calls by their kinds, so whoever asks for calls does not see them.
  have quiet : ∀ l ∈ (types.grouped.filter fun l => !g.hasLink l.source l.target).map relationLink,
      isCall l = false := by
    rw [List.forall_mem_map]
    exact fun l inside => isCall_relationLink (formed l (List.mem_of_mem_filter inside))
  have still {v : Value} (known : g.hasNode v = true) : (overlay g types).hasNode v = true := by
    rw [named, known, Bool.true_or]
  exact
    { nodes := by
        rw [whole]
        refine congrArg _ (List.map_congr_left fun n inside => ?_)
        obtain ⟨_, _, _, rfl⟩ := made.nodes n (List.mem_of_mem_filter inside)
        rfl
      links := by
        rw [whole]
        refine congrArg _ (List.map_congr_left fun l inside => ?_)
        obtain ⟨_, _, _, rfl⟩ := formed l (List.mem_of_mem_filter inside)
        rfl
      grouped := by
        rw [whole]
        exact grouped_sublist _ _
      calls
      relations := fun l => mem_grouped_iff made
      bindings := fun l inside => by
        obtain ⟨_, _, binding, rfl⟩ := made.links l inside
        exact ⟨binding, rfl⟩
      hasNode := named
      hasLink := fun source target => by
        have same : types.grouped.any (·.joins source target) = types.hasLink source target := by
          rw [Bool.eq_iff_iff, Graph.hasLink, List.any_eq_true, List.any_eq_true]
          simp only [mem_grouped_iff made]
        rw [joined, same]
      callees := fun v known => by
        rw [callees_of_hasNode known, callees_of_hasNode (still known), whole, Graph.linksFrom,
          filter_isCall_append quiet]
        rfl
      callers := fun v known => by
        rw [callers_of_hasNode known, callers_of_hasNode (still known), whole, Graph.linksTo,
          filter_isCall_append quiet]
        rfl
      again := by
        refine overlay_eq_self simple made (fun n inside => ?_) fun l inside => ?_
        · have own : types.hasNode n.id = true :=
            List.any_eq_true.mpr ⟨n, inside, Value.alike_refl n.id⟩
          rw [named, own, Bool.or_true]
        · have own : types.grouped.any (·.joins l.source l.target) = true :=
            List.any_eq_true.mpr ⟨l, inside, by simp [GraphLink.joins]⟩
          rw [joined, own, Bool.or_true] }

variable {bodies : List (FunctionBody String)} {t : SymbolTable} {c : Classification}

/-- Relations laid over a call graph leave its nodes and links as and where they are, so that they
are seen as before from both of their ends. What comes behind them are the declarations and the
relations that are missing, and nothing is missing from then on. -/
theorem laysOver_of_classify (built : build bodies = .ok g)
    (classified : t.classify.2 = .ok c) : LaysOver c.graph g (overlay g c.graph) := by
  have made : c.graph.IsMadeOf IsTypeNode IsTypeLink := by
    rw [graph_of_classify classified]
    exact isMadeOf_relationshipGraph fun e inside => (ends_of_ownershipEdges inside).1
  have simple : c.graph.IsSimple := by
    rw [graph_of_classify classified]
    exact isSimple_relationshipGraph _ _
  refine laysOver_overlay simple made fun l inside => ?_
  unfold build at built
  split at built
  next => cases built
  next =>
    cases built
    rw [isCall, ((isCallGraph_ofBodies bodies).calls l inside).1]
    rfl

/-- A function with the name of a declaration calls one with the name of another that it owns. The
pair stays a call, and all other relations come behind it. -/
theorem laysOver_turnedUses :
    let bodies : List (FunctionBody String) :=
      [⟨"A", .text "function", [.mk (.text "B") [] [], .mk (.int 7) [] []], .null⟩]
    let t := (SymbolTable.merge SymbolTable.turnedUses).1
    ∃ g c, build bodies = .ok g ∧ t.classify.2 = .ok c ∧
      LaysOver c.graph g (overlay g c.graph) ∧
        (overlay g c.graph).nodes.map (·.id) =
          [.text "A", .text "B", .int 7, .text "C", .text "F", .text "Gone"] ∧
        (overlay g c.graph).links =
          [⟨.text "A", .text "B", [("kind", .text "call")]⟩,
           ⟨.text "A", .int 7, [("kind", .text "call")]⟩,
           ⟨.text "A", .text "Gone", [("kind", .text "referenced")]⟩,
           ⟨.text "C", .text "Gone", [("kind", .text "referenced")]⟩,
           ⟨.text "C", .text "B", [("kind", .text "owned")]⟩,
           ⟨.text "C", .text "F", [("kind", .text "referenced")]⟩] ∧
        callees (overlay g c.graph) (.text "A") = .ok [.text "B", .int 7] := by
  intro bodies t
  have ordered : t.classify.2.toOption.isSome = true := by decide +kernel
  obtain ⟨c, classified⟩ := Option.isSome_iff_exists.mp ordered
  have classified := eq_ok_of_toOption classified
  have related : c.graph = relationshipGraph t.declarations t.ownershipEdges :=
    graph_of_classify classified
  have built : build bodies = .ok (ofBodies bodies) := by decide +kernel
  refine ⟨_, c, built, classified, laysOver_of_classify built classified, ?_, ?_, ?_⟩ <;>
    rw [related]
  · decide +kernel
  · decide +kernel
  · decide +kernel

end CallGraph
end Understudy
