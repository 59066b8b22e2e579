import Understudy.Ownership.Classification
import Understudy.Proofs.Graph.Cycle
import Understudy.Proofs.Symbols.Arena

/-! The constraints that owned uses put on the dependency order.

Bases and fields constrain it in any case. The uses in methods are weighed one after the other:
each either adds its constraint or meets a path that the constraint would close to a cycle.
-/

set_option autoImplicit false

open Relation

namespace Understudy

open Understudy.Cpp

/-! ## The ends of owned uses -/

theorem target_of_classifyBase {t : SymbolTable} {context base : String} {v : Verdict}
    (judged : classifyBase t context base = v) (owned : v.ownership = .owned) :
    v.target ∈ t.names := by
  unfold classifyBase at judged
  split at judged
  next =>
    subst judged
    cases owned
  next d found =>
    split at judged <;> subst judged
    · exact SymbolTable.mem_names (SymbolTable.mem_of_resolve? found)
    · cases owned

theorem target_of_classifyType {t : SymbolTable} {context : String} {type : SemanticType}
    {v : Verdict} (judged : classifyType t context type = some v) (owned : v.ownership = .owned) :
    v.target ∈ t.names := by
  obtain ⟨target, _, judged⟩ := Option.map_eq_some_iff.mp judged
  split at judged
  next =>
    subst judged
    cases owned
  next d found =>
    split at judged
    · subst judged
      cases owned
    · split at judged <;> subst judged
      · exact SymbolTable.mem_names (SymbolTable.mem_of_resolve? found)
      · cases owned

theorem ends_of_ownershipEdges {t : SymbolTable} {e : OwnershipEdge}
    (member : e ∈ t.ownershipEdges) :
    e.source ∈ t.names ∧ (e.isOwned = true → e.target ∈ t.names) := by
  obtain ⟨d, declared, member⟩ := List.mem_flatMap.mp member
  obtain ⟨⟨site, v⟩, judged, rfl⟩ := List.mem_map.mp member
  refine ⟨SymbolTable.mem_names declared, ?_⟩
  intro owned
  have owned : v.ownership = .owned := by simpa [OwnershipEdge.isOwned] using owned
  obtain ⟨⟨_, usage⟩, _, judged⟩ := List.mem_filterMap.mp judged
  obtain ⟨_, judged, same⟩ := Option.map_eq_some_iff.mp judged
  cases same
  cases usage with
  | base name =>
    exact target_of_classifyBase (Option.some.inj judged) owned
  | type type => exact target_of_classifyType judged owned

/-! ## Bases and fields -/

theorem nodes_hardGraph {names : List String} (distinct : names.Nodup)
    (edges : List OwnershipEdge) : (hardGraph names edges).nodes = names :=
  (Digraph.nodes_addEdges _ _).trans (Digraph.nodes_addNodes distinct)

theorem mem_hardGraph {names : List String} {edges : List OwnershipEdge} {v : String} :
    v ∈ (hardGraph names edges).nodes ↔ v ∈ names := by
  rw [hardGraph, Digraph.nodes_addEdges, Digraph.mem_addNodes]
  simp [Digraph.empty]

theorem nodup_hardGraph (names : List String) (edges : List OwnershipEdge) :
    (hardGraph names edges).nodes.Nodup := by
  rw [hardGraph, Digraph.nodes_addEdges]
  exact Digraph.nodup_addNodes List.nodup_nil

theorem edge_hardGraph {names : List String} {edges : List OwnershipEdge} {u v : String} :
    (hardGraph names edges).Edge u v ↔
      ∃ e ∈ edges, e.isOwned = true ∧ e.site.isHard = true ∧ e.target = u ∧ e.source = v := by
  unfold hardGraph
  rw [Digraph.edge_addEdges]
  simp only [Digraph.Edge, Digraph.edges_addNodes, Digraph.empty, List.not_mem_nil, false_or, List.mem_map, List.mem_filter,
    Bool.and_eq_true, OwnershipEdge.constraint, Prod.mk.injEq, and_assoc]

/-! ## Uses in methods -/

structure Weighed (g after : Digraph) (uses : List OwnershipEdge) : Prop where
  nodes : after.nodes = g.nodes
  kept : ∀ u v, g.Edge u v → after.Edge u v
  new : ∀ u v, after.Edge u v → g.Edge u v ∨ ∃ e ∈ uses, e.constraint = (u, v)
  acyclic : g.Acyclic → after.Acyclic
  /-- A use that adds nothing would lead back to where it comes from. -/
  decided : ∀ e ∈ uses, e.target ≠ e.source →
    after.Edge e.target e.source ∨ after.Reaches e.source e.target

theorem weighed_addSoft (g : Digraph) (e : OwnershipEdge) : Weighed g (addSoft g e) [e] := by
  unfold addSoft
  split
  next idle =>
    simp only [Bool.or_eq_true, beq_iff_eq, Digraph.hasEdge_eq_true, Digraph.hasPath_eq_true]
      at idle
    refine ⟨rfl, fun _ _ edge => edge, fun _ _ edge => .inl edge, id, ?_⟩
    intro use member proper
    rw [List.mem_singleton.mp member] at proper ⊢
    -- It adds nothing since it is about one name, is there already, or would close a cycle.
    rcases idle with (same | edge) | path
    · exact absurd same proper
    · exact .inl edge
    · exact .inr path
  next fresh =>
    simp only [Bool.or_eq_true, beq_iff_eq, Digraph.hasEdge_eq_true, Digraph.hasPath_eq_true,
      not_or] at fresh
    refine ⟨Digraph.nodes_addEdge g _, fun _ _ edge => Digraph.edge_addEdge.mpr (.inl edge),
      ?_, fun acyclic => acyclic.addEdge fresh.2, ?_⟩
    · intro u v edge
      rcases Digraph.edge_addEdge.mp edge with edge | same
      · exact .inl edge
      · exact .inr ⟨e, List.mem_singleton_self e, same.symm⟩
    · intro use member _
      rw [List.mem_singleton.mp member]
      exact .inl (Digraph.edge_addEdge.mpr (.inr rfl))

theorem Weighed.trans {g between after : Digraph} {first later : List OwnershipEdge}
    (h : Weighed g between first) (k : Weighed between after later) :
    Weighed g after (first ++ later) where
  nodes := k.nodes.trans h.nodes
  kept u v edge := k.kept u v (h.kept u v edge)
  new u v edge := by
    rcases k.new u v edge with edge | ⟨e, member, same⟩
    · rcases h.new u v edge with edge | ⟨e, member, same⟩
      · exact .inl edge
      · exact .inr ⟨e, List.mem_append_left _ member, same⟩
    · exact .inr ⟨e, List.mem_append_right _ member, same⟩
  acyclic acyclic := k.acyclic (h.acyclic acyclic)
  decided e member proper := by
    rcases List.mem_append.mp member with member | member
    · rcases h.decided e member proper with edge | path
      · exact .inl (k.kept _ _ edge)
      -- The graph only grows, so a path that spoke against a use stays.
      · exact .inr (path.mono k.kept)
    · exact k.decided e member proper

theorem weighed_foldl (g : Digraph) (uses : List OwnershipEdge) :
    Weighed g (uses.foldl addSoft g) uses := by
  induction uses generalizing g with
  | nil => exact ⟨rfl, fun _ _ edge => edge, fun _ _ edge => .inl edge, id, by simp⟩
  | cons e rest ih => exact (weighed_addSoft g e).trans (ih (addSoft g e))

theorem weighed_constraintGraph (names : List String) (edges : List OwnershipEdge) :
    Weighed (hardGraph names edges) (constraintGraph names edges)
      (edges.filter fun e => e.isOwned && !e.site.isHard) :=
  weighed_foldl _ _

/-- No constraint of a use that was weighed can be added later without closing a cycle. -/
theorem Weighed.maximal {g after : Digraph} {uses : List OwnershipEdge} (h : Weighed g after uses)
    {e : OwnershipEdge} (member : e ∈ uses) (missing : ¬ after.Edge e.target e.source) :
    ¬ (after.addEdge e.constraint).Acyclic := by
  have back : after.Reaches e.source e.target := by
    by_cases proper : e.target = e.source
    · rw [proper]
      exact .refl
    · exact (h.decided e member proper).resolve_left missing
  intro acyclic
  have edge : (after.addEdge e.constraint).Edge e.target e.source :=
    Digraph.edge_addEdge.mpr (.inr rfl)
  have wider : (after.addEdge e.constraint).Reaches e.source e.target :=
    back.mono fun _ _ edge => Digraph.edge_addEdge.mpr (.inl edge)
  exact acyclic e.target (.head' edge wider)

/-! ## All constraints -/

theorem edge_constraintGraph_of_isHard {names : List String} {edges : List OwnershipEdge}
    {e : OwnershipEdge} (member : e ∈ edges) (owned : e.isOwned = true)
    (embeds : e.site.isHard = true) : (constraintGraph names edges).Edge e.target e.source :=
  (weighed_constraintGraph names edges).kept _ _
    (edge_hardGraph.mpr ⟨e, member, owned, embeds, rfl, rfl⟩)

theorem mem_soft {edges : List OwnershipEdge} {e : OwnershipEdge} (member : e ∈ edges)
    (owned : e.isOwned = true) (named : e.site.isHard = false) :
    e ∈ edges.filter fun e => e.isOwned && !e.site.isHard := by
  simp [member, owned, named]

theorem use_of_constraintGraph {names : List String} {edges : List OwnershipEdge} {u v : String}
    (edge : (constraintGraph names edges).Edge u v) :
    ∃ e ∈ edges, e.isOwned = true ∧ e.constraint = (u, v) := by
  rcases (weighed_constraintGraph names edges).new u v edge with edge | ⟨e, member, same⟩
  · obtain ⟨e, member, owned, _, rfl, rfl⟩ := edge_hardGraph.mp edge
    exact ⟨e, member, owned, rfl⟩
  · have owned := (List.mem_filter.mp member).2
    rw [Bool.and_eq_true] at owned
    exact ⟨e, (List.mem_filter.mp member).1, owned.1, same⟩

theorem isClosed_constraintGraph (t : SymbolTable) :
    (constraintGraph t.names t.ownershipEdges).IsClosed := by
  intro u v edge
  obtain ⟨e, member, owned, same⟩ := use_of_constraintGraph edge
  cases same
  obtain ⟨source, target⟩ := ends_of_ownershipEdges member
  rw [(weighed_constraintGraph t.names t.ownershipEdges).nodes, mem_hardGraph, mem_hardGraph]
  exact ⟨target owned, source⟩

theorem isClosed_hardGraph (t : SymbolTable) : (hardGraph t.names t.ownershipEdges).IsClosed := by
  intro u v edge
  have wider := (weighed_constraintGraph t.names t.ownershipEdges).kept u v edge
  have ends := isClosed_constraintGraph t u v wider
  rwa [(weighed_constraintGraph t.names t.ownershipEdges).nodes] at ends

end Understudy
