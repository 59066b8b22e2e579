import Understudy.Proofs.Graph.Made
import Understudy.Proofs.Ownership.DependencyOrder

/-! The graph of declarations and their relations.

All names and kinds in it are texts. A relation leaves a declaration, which is a node from the
start, and what it leads to becomes one.
-/

set_option autoImplicit false

namespace Understudy

open Understudy.Cpp

def IsTypeNode (n : GraphNode) : Prop :=
  ∃ id label kind : String, n = ⟨.text id, [("label", .text label), ("kind", .text kind)]⟩

def IsTypeLink (l : GraphLink) : Prop :=
  ∃ (source target : String) (ownership : Ownership),
    l = ⟨.text source, .text target, [("ownership", .text ownership.keyword)]⟩

theorem grows_addTypeNode (g : Graph) (id label kind : String) :
    Graph.Grows IsTypeNode IsTypeLink [] [.text id] g
      (g.addNode (.text id) [("label", .text label), ("kind", .text kind)]) := by
  refine Graph.grows_addNode ⟨id, label, kind, rfl⟩ ?_
  rintro _ ⟨name, _, _, rfl⟩ _
  exact ⟨name, label, kind, rfl⟩

theorem grows_addRelation (g : Graph) (e : OwnershipEdge) :
    Graph.Grows IsTypeNode IsTypeLink [.text e.source] [] g (addRelation g e) := by
  have target : Graph.Grows IsTypeNode IsTypeLink [.text e.source] [.text e.target] g
      (if g.hasNode (.text e.target) then g
        else g.addNode (.text e.target) [("label", .text e.target), ("kind", .text "opaque")]) := by
    refine Graph.Grows.mono ?_ (List.nil_subset _) (List.Subset.refl _)
    split
    next known => exact Graph.grows_of_hasNode known
    next => exact grows_addTypeNode g e.target e.target "opaque"
  have relation (h : Graph) : Graph.Grows IsTypeNode IsTypeLink
      [.text e.source, .text e.target] [] h
      (if h.hasLink (.text e.source) (.text e.target) && !e.isOwned then h
        else h.addLink (.text e.source) (.text e.target)
          [("ownership", .text e.ownership.keyword)]) := by
    split
    · exact (Graph.grows_refl [] h).mono (List.nil_subset _) (List.Subset.refl _)
    · refine Graph.grows_addLink ⟨e.source, e.target, _, rfl⟩ ?_
      rintro _ ⟨source, target, _, rfl⟩ _
      exact ⟨source, target, _, rfl⟩
  exact (target.trans (relation _) (List.Subset.refl _)).mono (List.Subset.refl _)
    (List.nil_subset _)

theorem isMadeOf_relationshipGraph {declarations : List (Declaration String)}
    {edges : List OwnershipEdge}
    (declared : ∀ e ∈ edges, e.source ∈ declarations.map (·.name)) :
    (relationshipGraph declarations edges).IsMadeOf IsTypeNode IsTypeLink := by
  have nodes := Graph.grows_foldl declarations
    (fun (g : Graph) d _ => grows_addTypeNode g d.name d.name d.label) .empty
  have relations := Graph.grows_foldl edges (fun g e _ => grows_addRelation g e)
    (declarations.foldl (fun g d => g.addNode (.text d.name) (declarationNode d)) .empty)
  have all := nodes.trans relations ?_
  · exact (all Graph.isMadeOf_empty (by simp)).1
  · -- A relation leaves a declaration, and the first fold has made these nodes.
    intro v inside
    obtain ⟨e, listed, own⟩ := List.mem_flatMap.mp inside
    obtain ⟨d, known, same⟩ := List.mem_map.mp (declared e listed)
    refine List.mem_append_right _ (List.mem_flatMap.mpr ⟨d, known, ?_⟩)
    rw [List.mem_singleton.mp own, same]
    exact List.mem_singleton_self _

theorem graph_of_classify {t : SymbolTable} {c : Classification}
    (classified : t.classify.2 = .ok c) :
    c.graph = relationshipGraph t.declarations t.ownershipEdges := by
  rcases t.classify_cases with ⟨_, failed⟩ | ⟨_, outcome⟩
  · rw [failed] at classified
    cases classified
  · rw [outcome] at classified
    cases ordered : dependencyOrder t.names t.ownershipEdges with
    | error fault =>
      rw [ordered] at classified
      cases classified
    | ok order =>
      rw [ordered] at classified
      cases classified
      rfl

end Understudy
