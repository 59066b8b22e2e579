import Mathlib.Logic.Relation
import Understudy.Graph.Digraph

/-! Paths in a graph of names, and the search that decides whether there is one.

The search keeps a stack of nodes to look at. Every step takes one node off, and a node that is
met for the first time puts its successors on, so every edge is pushed at most once.
-/

set_option autoImplicit false

open Relation

namespace Understudy.Digraph

def Edge (g : Digraph) (u v : String) : Prop := (u, v) ∈ g.edges

/-- A path, possibly empty. -/
def Reaches (g : Digraph) : String → String → Prop := ReflTransGen g.Edge

/-- No path comes back to where it began, the empty one apart. -/
def Acyclic (g : Digraph) : Prop := ∀ v, ¬ TransGen g.Edge v v

def IsClosed (g : Digraph) : Prop := ∀ u v, g.Edge u v → u ∈ g.nodes ∧ v ∈ g.nodes

variable {g : Digraph}

theorem hasEdge_eq_true {e : String × String} : g.hasEdge e = true ↔ g.Edge e.1 e.2 := by
  simp [hasEdge, Edge]

theorem mem_successors {u v : String} : v ∈ g.successors u ↔ g.Edge u v := by
  simp [successors, Edge]

theorem mem_predecessors {u v : String} : u ∈ g.predecessors v ↔ g.Edge u v := by
  simp [predecessors, Edge]

/-! ## Growing graphs -/

theorem mem_addNodes {names : List String} {v : String} :
    v ∈ (g.addNodes names).nodes ↔ v ∈ g.nodes ∨ v ∈ names := by
  unfold addNodes
  induction names generalizing g with
  | nil => simp
  | cons name rest ih =>
    rw [List.foldl_cons, ih, addNode]
    split
    next known =>
      have known := List.contains_iff_mem.mp known
      grind
    next => simp [or_assoc]

theorem nodup_addNodes {names : List String} (distinct : g.nodes.Nodup) :
    (g.addNodes names).nodes.Nodup := by
  unfold addNodes
  induction names generalizing g with
  | nil => exact distinct
  | cons name rest ih =>
    apply ih
    unfold addNode
    split
    next => exact distinct
    next fresh =>
      rw [List.contains_iff_mem] at fresh
      exact List.nodup_append.mpr ⟨distinct, by simp, by grind⟩

theorem nodes_addNodes {names : List String} (fresh : (g.nodes ++ names).Nodup) :
    (g.addNodes names).nodes = g.nodes ++ names := by
  unfold addNodes
  induction names generalizing g with
  | nil => simp
  | cons name rest ih =>
    have new : name ∉ g.nodes := fun old => (List.nodup_append.mp fresh).2.2 name old name
      List.mem_cons_self rfl
    have added : g.addNode name = { g with nodes := g.nodes ++ [name] } := by simp [addNode, new]
    rw [List.foldl_cons, added, ih (by simpa using fresh), List.append_assoc]
    rfl

@[simp] theorem edges_addNodes (g : Digraph) (names : List String) :
    (g.addNodes names).edges = g.edges := by
  unfold addNodes
  induction names generalizing g with
  | nil => rfl
  | cons name rest ih =>
    rw [List.foldl_cons, ih, addNode]
    split <;> rfl

@[simp] theorem nodes_addEdge (g : Digraph) (e : String × String) :
    (g.addEdge e).nodes = g.nodes := by
  unfold addEdge
  split <;> rfl

theorem edge_addEdge {e : String × String} {u v : String} :
    (g.addEdge e).Edge u v ↔ g.Edge u v ∨ (u, v) = e := by
  unfold addEdge
  split
  next known =>
    refine ⟨Or.inl, ?_⟩
    rintro (edge | rfl)
    · exact edge
    · exact hasEdge_eq_true.mp known
  next => simp [Edge]

@[simp] theorem nodes_addEdges (g : Digraph) (edges : List (String × String)) :
    (g.addEdges edges).nodes = g.nodes := by
  unfold addEdges
  induction edges generalizing g with
  | nil => rfl
  | cons e rest ih => exact (ih (g.addEdge e)).trans (nodes_addEdge g e)

theorem edge_addEdges {edges : List (String × String)} {u v : String} :
    (g.addEdges edges).Edge u v ↔ g.Edge u v ∨ (u, v) ∈ edges := by
  unfold addEdges
  induction edges generalizing g with
  | nil => simp
  | cons e rest ih => rw [List.foldl_cons, ih, edge_addEdge, List.mem_cons, or_assoc]

/-! ## Acyclic graphs -/

theorem Reaches.mono {g h : Digraph} (sub : ∀ u v, g.Edge u v → h.Edge u v) {u v : String}
    (path : g.Reaches u v) : h.Reaches u v :=
  ReflTransGen.mono sub u v path

theorem Acyclic.addEdge (acyclic : g.Acyclic) {u v : String} (apart : ¬ g.Reaches v u) :
    (g.addEdge (u, v)).Acyclic := by
  -- Every path of the new graph is one of the old graph, or takes the new edge once.
  have step : ∀ {a b}, TransGen (g.addEdge (u, v)).Edge a b →
      TransGen g.Edge a b ∨ g.Reaches a u ∧ g.Reaches v b := by
    intro a b path
    induction path with
    | single edge =>
      rcases edge_addEdge.mp edge with edge | same
      · exact .inl (.single edge)
      · cases same
        exact .inr ⟨.refl, .refl⟩
    | tail _ edge ih =>
      rcases edge_addEdge.mp edge with edge | same
      · rcases ih with path | ⟨before, after⟩
        · exact .inl (path.tail edge)
        · exact .inr ⟨before, after.tail edge⟩
      · cases same
        rcases ih with path | ⟨before, after⟩
        · exact .inr ⟨path.to_reflTransGen, .refl⟩
        · exact absurd after apart
  intro a path
  rcases step path with path | ⟨before, after⟩
  · exact acyclic a path
  · exact apart (after.trans before)

/-! ## The search for a path -/

def unseen (g : Digraph) (seen : List String) : Nat :=
  (g.edges.filter fun e => !seen.contains e.1).length

theorem unseen_le (g : Digraph) (seen : List String) : g.unseen seen ≤ g.edges.length :=
  List.length_filter_le _ _

theorem unseen_cons {seen : List String} {v : String} (new : v ∉ seen) :
    g.unseen seen = (g.successors v).length + g.unseen (v :: seen) := by
  unfold unseen successors
  rw [List.length_map]
  induction g.edges with
  | nil => rfl
  | cons e rest ih =>
    simp only [List.contains_cons, Bool.not_or] at ih ⊢
    by_cases leaves : e.1 = v
    · simp [leaves, new] at ih ⊢
      omega
    · by_cases known : e.1 ∈ seen
      · simp [leaves, known] at ih ⊢
        omega
      · simp [leaves, known] at ih ⊢
        omega

/-- What is seen or stacked is reached, and what is reached is closed under edges. -/
theorem reachedFrom_complete {fuel : Nat} {stack seen : List String}
    (enough : stack.length + g.unseen seen ≤ fuel)
    (closed : ∀ u ∈ seen, ∀ v, g.Edge u v → v ∈ seen ++ stack) :
    (∀ v ∈ seen ++ stack, v ∈ g.reachedFrom fuel stack seen) ∧
      ∀ u ∈ g.reachedFrom fuel stack seen, ∀ v, g.Edge u v → v ∈ g.reachedFrom fuel stack seen := by
  -- A new node stacks as many successors as it takes edges off those still to be pushed.
  induction fuel generalizing stack seen with
  | zero =>
    have done : stack = [] := List.length_eq_zero_iff.mp (by omega)
    subst done
    simpa [reachedFrom] using closed
  | succ fuel ih =>
    cases stack with
    | nil => simpa [reachedFrom] using closed
    | cons head stack =>
      simp only [reachedFrom, List.contains_iff_mem]
      rw [List.length_cons] at enough
      split
      next known =>
        have kept : ∀ v ∈ seen ++ head :: stack, v ∈ seen ++ stack := by
          intro v member
          rcases List.mem_append.mp member with old | due
          · exact List.mem_append_left _ old
          · rcases List.mem_cons.mp due with rfl | due
            · exact List.mem_append_left _ known
            · exact List.mem_append_right _ due
        obtain ⟨start, done⟩ := @ih stack seen (by omega)
          fun u old v edge => kept v (closed u old v edge)
        exact ⟨fun v member => start v (kept v member), done⟩
      next new =>
        have kept : ∀ v ∈ seen ++ head :: stack,
            v ∈ (head :: seen) ++ (g.successors head ++ stack) := by
          intro v member
          simp only [List.mem_append, List.mem_cons] at member ⊢
          rcases member with old | rfl | due
          · exact .inl (.inr old)
          · exact .inl (.inl rfl)
          · exact .inr (.inr due)
        obtain ⟨start, done⟩ := @ih (g.successors head ++ stack) (head :: seen)
          (by
            rw [unseen_cons new] at enough
            rw [List.length_append]
            omega)
          (by
            intro u old v edge
            rcases List.mem_cons.mp old with rfl | old
            · exact List.mem_append_right _ (List.mem_append_left _ (mem_successors.mpr edge))
            · exact kept v (closed u old v edge))
        exact ⟨fun v member => start v (kept v member), done⟩

theorem reachedFrom_sound {fuel : Nat} {stack seen : List String} {P : String → Prop}
    (kept : ∀ u v, P u → g.Edge u v → P v) (old : ∀ v ∈ seen, P v) (due : ∀ v ∈ stack, P v) :
    ∀ v ∈ g.reachedFrom fuel stack seen, P v := by
  induction fuel generalizing stack seen with
  | zero => simpa [reachedFrom] using old
  | succ fuel ih =>
    cases stack with
    | nil => simpa [reachedFrom] using old
    | cons head stack =>
      obtain ⟨first, later⟩ := List.forall_mem_cons.mp due
      simp only [reachedFrom]
      split
      · exact ih old later
      · apply ih (List.forall_mem_cons.mpr ⟨first, old⟩)
        intro v member
        rcases List.mem_append.mp member with next | stacked
        · exact kept head v first (mem_successors.mp next)
        · exact later v stacked

theorem hasPath_eq_true {u v : String} : g.hasPath u v = true ↔ g.Reaches u v := by
  unfold hasPath
  rw [List.contains_iff_mem]
  constructor
  · intro found
    refine reachedFrom_sound (P := g.Reaches u) (fun _ _ => ReflTransGen.tail) (by simp) ?_ v found
    intro w member
    rw [List.mem_singleton.mp member]
    exact .refl
  · intro path
    have enough : [u].length + g.unseen [] ≤ g.edges.length + 2 := by
      have bound := g.unseen_le []
      simp only [List.length_singleton]
      omega
    obtain ⟨start, closed⟩ := reachedFrom_complete enough (by simp)
    induction path with
    | refl => exact start u (by simp)
    | tail _ edge ih => exact closed _ ih _ edge

end Understudy.Digraph
