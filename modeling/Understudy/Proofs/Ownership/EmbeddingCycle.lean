import Understudy.Proofs.Ownership.DependencyOrder

/-! Declarations that embed each other in a circle.

Main statement: exactly these leave a table without dependency order, and the names that are
reported go round such a circle once.
-/

set_option autoImplicit false

open Relation

namespace Understudy.SymbolTable

open Understudy.Cpp

/-- One declaration has another one as a base or as a field. -/
def Embeds (t : SymbolTable) (a b : String) : Prop :=
  ∃ e ∈ t.ownershipEdges, e.isOwned = true ∧ e.site.isHard = true ∧ e.source = a ∧ e.target = b

/-- Each name of the list is embedded in the next one, and the last one in the first. -/
structure IsEmbeddingCycle (t : SymbolTable) (cycle : List String) : Prop where
  nonempty : cycle ≠ []
  nodup : cycle.Nodup
  embeds : ∀ i a b, cycle[i]? = some a → cycle[(i + 1) % cycle.length]? = some b → t.Embeds b a

variable {t : SymbolTable}

theorem edge_hardGraph_iff_embeds {u v : String} :
    (hardGraph t.names t.ownershipEdges).Edge u v ↔ t.Embeds v u := by
  rw [edge_hardGraph]
  simp only [Embeds, and_comm]

theorem acyclic_hardGraph :
    (hardGraph t.names t.ownershipEdges).Acyclic ↔ ¬ ∃ name, TransGen t.Embeds name name := by
  have turned : (hardGraph t.names t.ownershipEdges).Edge = Function.swap t.Embeds := by
    funext u v
    exact propext edge_hardGraph_iff_embeds
  unfold Digraph.Acyclic
  rw [turned, not_exists]
  exact forall_congr' fun name => not_congr transGen_swap

theorem isEmbeddingCycle_of_isCycle {cycle : List String}
    (h : (hardGraph t.names t.ownershipEdges).IsCycle cycle) : t.IsEmbeddingCycle cycle where
  nonempty := h.nonempty
  nodup := h.nodup
  embeds i a b first second := edge_hardGraph_iff_embeds.mp (h.edge i a b first second)

theorem precedes_of_embeds {c : Classification} (sound : IsDependencyOrder t c)
    (distinct : c.order.Nodup) (edges : c.edges = t.ownershipEdges) {a b : String}
    (embeds : TransGen t.Embeds a b) : Precedes c.order b a := by
  have direct {a b : String} (step : t.Embeds a b) : Precedes c.order b a := by
    obtain ⟨e, member, owned, hard, rfl, rfl⟩ := step
    exact sound.embedded e (edges ▸ member) owned hard
  induction embeds with
  | single step => exact direct step
  | tail _ step ih => exact (direct step).trans distinct ih

theorem dependencyOrder_of_classify (arena : t.IsArena) {c : Classification}
    (classified : t.classify.2 = .ok c) :
    IsDependencyOrder t c ∧ c.edges = t.ownershipEdges := by
  rcases classify_cases t with ⟨_, outcome⟩ | ⟨_, outcome⟩
  · rw [outcome] at classified
    cases classified
  · rcases dependencyOrder_cases t with ⟨cycle, _, none⟩ | ⟨order, hard, found, some⟩
    · rw [outcome, none] at classified
      cases classified
    · rw [outcome, some] at classified
      cases classified
      exact ⟨isDependencyOrder_of_order? arena _ hard found, rfl⟩

/-- A classification that gets to see all uses reports a cycle exactly where bases and fields form
one, and what is reported is such a cycle. -/
theorem classify_eq_cycle (t : SymbolTable) :
    (t.hasUnfitUse = false →
      ((∃ cycle, t.classify.2 = .error (.cycle cycle)) ↔ ∃ name, TransGen t.Embeds name name)) ∧
      ∀ cycle, t.classify.2 = .error (.cycle cycle) → t.IsEmbeddingCycle cycle := by
  rcases classify_cases t with ⟨unfit, outcome⟩ | ⟨_, outcome⟩
  · rw [outcome]
    refine ⟨fun fit => ?_, by simp⟩
    rw [unfit] at fit
    cases fit
  · rcases dependencyOrder_cases t with ⟨cycle, reported, none⟩ | ⟨order, unreported, _, some⟩
    · rw [outcome, none]
      have sound := Digraph.isCycle_of_cycle? (isClosed_hardGraph t) reported
      constructor
      · intro _
        have cyclic := mt acyclic_hardGraph.mpr sound.not_acyclic
        exact ⟨fun _ => not_not.mp cyclic, fun _ => ⟨cycle, rfl⟩⟩
      · intro other same
        cases same
        exact isEmbeddingCycle_of_isCycle sound
    · rw [outcome, some]
      refine ⟨fun _ => ?_, by simp [Except.map]⟩
      have acyclic := (Digraph.cycle?_eq_none (isClosed_hardGraph t)).mp unreported
      have uncyclic := acyclic_hardGraph.mp acyclic
      exact ⟨by simp [Except.map], fun cyclic => absurd cyclic uncyclic⟩

def mutualEmbedding : List (UnitRecord String) :=
  let declaring (name : String) (bases : List String) (fields : List DataMember) :
      Declaration String :=
    { name, kind := .ordinary, bases, methods := [], fields, isFull := true, unit := .null }
  [{ name := .null
     declarations :=
       [declaring "A" [] [⟨.text "b", .named "B" false, .text "A"⟩],
        declaring "B" ["A"] []]
     bodies := [], header := .null }]

theorem classify_eq_cycle_mutualEmbedding :
    let t := (merge mutualEmbedding).1
    t.hasUnfitUse = false ∧ t.classify.2 = .error (.cycle ["B", "A"]) ∧
      t.IsEmbeddingCycle ["B", "A"] ∧ ∃ name, TransGen t.Embeds name name := by
  intro t
  have fit : t.hasUnfitUse = false := by decide +kernel
  have reported : t.classify.2 = .error (.cycle ["B", "A"]) := by decide +kernel
  obtain ⟨cyclic, sound⟩ := classify_eq_cycle t
  exact ⟨fit, reported, sound _ reported, (cyclic fit).mp ⟨_, reported⟩⟩

end Understudy.SymbolTable
