import Mathlib.Data.List.Chain
import Mathlib.Data.List.Nodup
import Mathlib.Data.List.Perm.Subperm
import Understudy.Proofs.Graph.Path

/-! The depth-first search for a cycle.

Nodes that are finished never lie on a cycle, because everything they lead to was finished before
them. The nodes on the path of the search form a trail, so a node that is met twice on it closes
a cycle.
-/

set_option autoImplicit false

open Relation

namespace Understudy.Digraph

variable {g : Digraph}

/-- The nodes of a cycle in the order of its edges; the last one leads back to the first. -/
structure IsCycle (g : Digraph) (cycle : List String) : Prop where
  nonempty : cycle ≠ []
  nodup : cycle.Nodup
  edge : ∀ i u v, cycle[i]? = some u → cycle[(i + 1) % cycle.length]? = some v → g.Edge u v

theorem IsCycle.not_acyclic {cycle : List String} (h : g.IsCycle cycle) : ¬ g.Acyclic := by
  intro acyclic
  have positive : 0 < cycle.length := List.length_pos_iff.mpr h.nonempty
  have round : ∀ n, TransGen g.Edge cycle[0] (cycle.get ⟨(n + 1) % cycle.length,
      Nat.mod_lt _ positive⟩) := by
    intro n
    induction n with
    | zero =>
      apply TransGen.single
      exact h.edge 0 _ _ (List.getElem?_eq_getElem positive)
        (List.getElem?_eq_getElem (Nat.mod_lt _ positive))
    | succ n ih =>
      apply ih.tail
      apply h.edge ((n + 1) % cycle.length) _ _ (List.getElem?_eq_getElem _)
      rw [Nat.mod_add_mod]
      exact List.getElem?_eq_getElem (Nat.mod_lt _ positive)
  have back := round (cycle.length - 1)
  simp only [Nat.sub_add_cancel positive, Nat.mod_self] at back
  exact acyclic _ back

theorem isCycle_of_isChain {between : List String} {v : String} (nodup : (between ++ [v]).Nodup)
    (chain : List.IsChain g.Edge (v :: (between ++ [v]))) : g.IsCycle (between ++ [v]) := by
  refine ⟨by simp, nodup, ?_⟩
  intro i u w first second
  rw [List.isChain_iff_getElem] at chain
  obtain ⟨bound, rfl⟩ := List.getElem?_eq_some_iff.mp first
  by_cases last : i + 1 = (between ++ [v]).length
  · rw [last, Nat.mod_self] at second
    obtain ⟨bound', rfl⟩ := List.getElem?_eq_some_iff.mp second
    have opening := chain 0 (by simp)
    simp only [List.getElem_cons_zero, Nat.zero_add, List.getElem_cons_succ] at opening
    have closing : (between ++ [v])[i] = v := by
      have index : i = between.length := by simpa using last
      subst index
      simp
    rwa [closing]
  · rw [Nat.mod_eq_of_lt (by omega)] at second
    obtain ⟨bound', rfl⟩ := List.getElem?_eq_some_iff.mp second
    have inner := chain (i + 1) (by simpa using bound')
    simpa only [List.getElem_cons_succ] using inner

/-! ## The state of the search -/

/-- A node that the search arrives at over a path, listed backwards. -/
structure Trail (g : Digraph) (path : List String) (v : String) : Prop where
  chain : List.IsChain (fun u w => g.Edge w u) (v :: path)
  nodup : path.Nodup
  nodes : ∀ u ∈ v :: path, u ∈ g.nodes

/-- Finished nodes, the last one first: each leads only to nodes finished before it. -/
def Settled (g : Digraph) : List String → Prop
  | [] => True
  | v :: rest => v ∉ rest ∧ (∀ w, g.Edge v w → w ∈ rest) ∧ g.Settled rest

def Outcome (g : Digraph) (path finished arrived : List String) :
    Except (List String) (List String) → Prop
  | .error cycle => g.IsCycle cycle
  | .ok after =>
    g.Settled after ∧ (∀ v ∈ finished, v ∈ after) ∧ (∀ v ∈ arrived, v ∈ after) ∧
      ∀ u ∈ path, u ∉ after

theorem Settled.edge {finished : List String} (settled : g.Settled finished) {v w : String}
    (member : v ∈ finished) (edge : g.Edge v w) : w ∈ finished := by
  induction finished with
  | nil => simp at member
  | cons head rest ih =>
    obtain ⟨_, next, settled⟩ := settled
    rcases List.mem_cons.mp member with rfl | member
    · exact List.mem_cons_of_mem _ (next w edge)
    · exact List.mem_cons_of_mem _ (ih settled member)

theorem Settled.reaches {finished : List String} (settled : g.Settled finished) {v w : String}
    (member : v ∈ finished) (path : g.Reaches v w) : w ∈ finished := by
  induction path with
  | refl => exact member
  | tail _ edge ih => exact settled.edge ih edge

theorem Settled.not_cyclic {finished : List String} (settled : g.Settled finished) {v : String}
    (member : v ∈ finished) : ¬ TransGen g.Edge v v := by
  induction finished with
  | nil => simp at member
  | cons head rest ih =>
    obtain ⟨new, next, settled⟩ := settled
    rcases List.mem_cons.mp member with rfl | member
    · intro path
      obtain ⟨w, edge, back⟩ := TransGen.head'_iff.mp path
      exact new (settled.reaches (next w edge) back)
    · exact ih settled member

theorem Trail.length_le {path : List String} {v : String} (trail : g.Trail path v) :
    path.length ≤ g.nodes.length :=
  (trail.nodup.subperm fun u member => trail.nodes u (List.mem_cons_of_mem _ member)).length_le

theorem Trail.isCycle_closeCycle {path : List String} {v : String} (trail : g.Trail path v)
    (met : v ∈ path) : g.IsCycle (closeCycle path v) := by
  obtain ⟨recent, older, rfl, new⟩ := List.eq_append_cons_of_mem met
  -- The path is listed backwards, so its latest part, turned round, is the cycle.
  have closed : closeCycle (recent ++ v :: older) v = recent.reverse ++ [v] := by
    unfold closeCycle
    rw [List.takeWhile_append_of_pos]
    · simp
    · intro u member
      simpa using fun same : u = v => new (same ▸ member)
  rw [closed]
  apply isCycle_of_isChain
  · rw [← List.reverse_cons, List.nodup_reverse]
    have distinct := (List.nodup_append.mp trail.nodup).1
    exact List.nodup_cons.mpr ⟨new, distinct⟩
  · have backwards : List.IsChain (fun u w => g.Edge w u) (v :: (recent ++ [v])) := by
      have chain := trail.chain
      rw [← List.cons_append, List.isChain_split] at chain
      exact chain.1
    have forwards := List.isChain_reverse.mpr backwards
    simpa using forwards

theorem Trail.extend (closed : g.IsClosed) {path : List String} {v w : String}
    (trail : g.Trail path v) (new : v ∉ path) (edge : g.Edge v w) : g.Trail (v :: path) w where
  chain := List.isChain_cons_cons.mpr ⟨edge, trail.chain⟩
  nodup := List.nodup_cons.mpr ⟨new, trail.nodup⟩
  nodes := List.forall_mem_cons.mpr ⟨(closed v w edge).2, trail.nodes⟩

/-! ## The search -/

theorem outcome_foldlM {path arrived finished : List String}
    {search : List String → String → Except (List String) (List String)}
    (each : ∀ finished, ∀ v ∈ arrived, g.Settled finished → (∀ u ∈ path, u ∉ finished) →
      g.Outcome path finished [v] (search finished v))
    (settled : g.Settled finished) (apart : ∀ u ∈ path, u ∉ finished) :
    g.Outcome path finished arrived (arrived.foldlM search finished) := by
  induction arrived generalizing finished with
  | nil => exact ⟨settled, fun _ member => member, by simp, apart⟩
  | cons v rest ih =>
    have first := each finished v List.mem_cons_self settled apart
    rw [List.foldlM_cons]
    cases found : search finished v with
    | error cycle =>
      rw [found] at first
      exact first
    | ok between =>
      rw [found] at first
      obtain ⟨settled, kept, reached, apart⟩ := first
      have later := ih (fun finished w member => each finished w (List.mem_cons_of_mem _ member))
        settled apart
      show g.Outcome path finished (v :: rest) (rest.foldlM search between)
      cases done : rest.foldlM search between with
      | error cycle =>
        rw [done] at later
        exact later
      | ok after =>
        rw [done] at later
        obtain ⟨settled, grown, all, apart⟩ := later
        refine ⟨settled, fun u member => grown u (kept u member), ?_, apart⟩
        exact List.forall_mem_cons.mpr ⟨grown v (reached v (by simp)), all⟩

/-- The search from one node reports a cycle, or finishes the node and keeps what it knows. The
path has no repetition, so the fuel lasts. -/
theorem outcome_visit (closed : g.IsClosed) {fuel : Nat} {path finished : List String} {v : String}
    (trail : g.Trail path v) (enough : g.nodes.length < fuel + path.length)
    (settled : g.Settled finished) (apart : ∀ u ∈ path, u ∉ finished) :
    g.Outcome path finished [v] (g.visit fuel path finished v) := by
  induction fuel generalizing path finished v with
  | zero =>
    have bound := trail.length_le
    omega
  | succ fuel ih =>
    simp only [visit, List.contains_iff_mem]
    split
    next met => exact trail.isCycle_closeCycle met
    next new =>
      split
      next known =>
        refine ⟨settled, fun _ member => member, ?_, apart⟩
        intro u member
        rwa [List.mem_singleton.mp member]
      next unknown =>
        -- The node is on the path while its successors are searched, and is finished after them.
        have inner : g.Outcome (v :: path) finished (g.successors v)
            ((g.successors v).foldlM (g.visit fuel (v :: path)) finished) := by
          apply outcome_foldlM
          · intro finished w member settled apart
            have onward := trail.extend closed new (mem_successors.mp member)
            exact ih onward (by rw [List.length_cons]; omega) settled apart
          · exact settled
          · exact List.forall_mem_cons.mpr ⟨unknown, apart⟩
        cases done : (g.successors v).foldlM (g.visit fuel (v :: path)) finished with
        | error cycle =>
          rw [done] at inner
          exact inner
        | ok after =>
          rw [done] at inner
          obtain ⟨settled, kept, next, apart⟩ := inner
          obtain ⟨unfinished, apart⟩ := List.forall_mem_cons.mp apart
          refine ⟨⟨unfinished, fun w edge => next w (mem_successors.mpr edge), settled⟩,
            fun u member => List.mem_cons_of_mem _ (kept u member), ?_, ?_⟩
          · intro u member
            rw [List.mem_singleton.mp member]
            exact List.mem_cons_self
          · intro u member
            rw [List.mem_cons, not_or]
            exact ⟨fun same => new (same ▸ member), apart u member⟩

theorem outcome_nodes (closed : g.IsClosed) :
    g.Outcome [] [] g.nodes (g.nodes.foldlM (g.visit (g.nodes.length + 1) []) []) := by
  apply outcome_foldlM
  · intro finished v member settled apart
    have trail : g.Trail [] v := ⟨List.isChain_singleton v, List.nodup_nil, by simpa using member⟩
    exact outcome_visit closed trail (by simp) settled apart
  · trivial
  · simp

theorem isCycle_of_cycle? (closed : g.IsClosed) {cycle : List String}
    (found : g.cycle? = some cycle) : g.IsCycle cycle := by
  have outcome := outcome_nodes closed
  unfold cycle? at found
  cases done : g.nodes.foldlM (g.visit (g.nodes.length + 1) []) [] with
  | error cycle =>
    rw [done] at outcome found
    cases found
    exact outcome
  | ok after =>
    rw [done] at found
    cases found

theorem cycle?_eq_none (closed : g.IsClosed) : g.cycle? = none ↔ g.Acyclic := by
  constructor
  · intro none v path
    have outcome := outcome_nodes closed
    unfold cycle? at none
    cases done : g.nodes.foldlM (g.visit (g.nodes.length + 1) []) [] with
    | error cycle =>
      rw [done] at none
      cases none
    | ok after =>
      rw [done] at outcome
      obtain ⟨settled, _, all, _⟩ := outcome
      -- A node on a cycle has an edge, so it is a node of the graph, and all of these are finished.
      obtain ⟨w, edge, _⟩ := TransGen.head'_iff.mp path
      exact settled.not_cyclic (all v (closed v w edge).1) path
  · intro acyclic
    cases found : g.cycle? with
    | none => rfl
    | some cycle => exact absurd acyclic (isCycle_of_cycle? closed found).not_acyclic

end Understudy.Digraph
