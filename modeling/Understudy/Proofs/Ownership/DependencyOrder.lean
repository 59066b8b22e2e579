import Understudy.Proofs.Graph.Order
import Understudy.Proofs.Ownership.Constraint

/-! The dependency order of a classified table.

Main statement: an order is found unless declarations embed each other in a circle. It lists every
name once, honours as many constraints of method uses as can be had beside those of bases and
fields, and prefers earlier declarations wherever these leave a choice.
-/

set_option autoImplicit false

namespace Understudy

open Understudy.Cpp

def Precedes (order : List String) (a b : String) : Prop :=
  ∃ before after, order = before ++ b :: after ∧ a ∈ before

/-- The constraints that the order of a classification honours. -/
def Classification.constraints (c : Classification) (t : SymbolTable) : Digraph :=
  constraintGraph t.names c.edges

structure IsDependencyOrder (t : SymbolTable) (c : Classification) : Prop where
  perm : c.order.Perm t.names
  /-- Bases and fields come before the declarations that embed them. -/
  embedded : ∀ e ∈ c.edges, e.isOwned = true → e.site.isHard = true →
    Precedes c.order e.target e.source
  /-- So do owned types in methods, unless the constraints lead back to them. -/
  named : ∀ e ∈ c.edges, e.isOwned = true → e.site.isHard = false → e.target ≠ e.source →
    Precedes c.order e.target e.source ∨ (c.constraints t).Reaches e.source e.target
  /-- The constraints are those of owned uses, and among them all of bases and fields. -/
  drawn : ∀ u v, (c.constraints t).Edge u v → ∃ e ∈ c.edges, e.isOwned = true ∧
    e.constraint = (u, v)
  hard : ∀ e ∈ c.edges, e.isOwned = true → e.site.isHard = true →
    (c.constraints t).Edge e.target e.source
  acyclic : (c.constraints t).Acyclic
  /-- No constraint that was left out can be added without closing a cycle. -/
  maximal : ∀ e ∈ c.edges, e.isOwned = true → ¬ (c.constraints t).Edge e.target e.source →
    ¬ ((c.constraints t).addEdge e.constraint).Acyclic
  /-- At each place stands a name all of whose predecessors have been placed, and of all such
  names the one with the least number. -/
  least : ∀ before v after, c.order = before ++ v :: after →
    (∀ u, (c.constraints t).Edge u v → u ∈ before) ∧
      ∃ i, t.idOf? v = some i ∧
        ∀ w ∈ after, (∀ u, (c.constraints t).Edge u w → u ∈ before) →
          ∃ j, t.idOf? w = some j ∧ i < j

theorem precedes_of_edge {g : Digraph} {order : List String}
    (placed : ∀ before v after, order = before ++ v :: after → ∀ u, g.Edge u v → u ∈ before)
    {u v : String} (member : v ∈ order) (edge : g.Edge u v) : Precedes order u v := by
  obtain ⟨before, after, split⟩ := List.append_of_mem member
  exact ⟨before, after, split, placed before v after split u edge⟩

theorem Precedes.trans {order : List String} {a b c : String} (distinct : order.Nodup)
    (first : Precedes order a b) (second : Precedes order b c) : Precedes order a c := by
  obtain ⟨before, after, rfl, early⟩ := second
  obtain ⟨start, between, rfl⟩ := List.append_of_mem early
  obtain ⟨start', rest, split, early'⟩ := first
  refine ⟨start ++ b :: between, after, rfl, List.mem_append_left _ ?_⟩
  -- In a list without repetitions there is one place for the name between the two.
  rw [List.append_assoc, List.cons_append] at split distinct
  have once := (List.nodup_cons.mp (List.nodup_middle.mp distinct)).1
  rw [List.mem_append, not_or] at once
  obtain ⟨rfl, _⟩ := (List.append_cons_inj_of_notMem once.1 once.2).mp split
  exact early'

theorem Precedes.filter {order : List String} {a b : String} (h : Precedes order a b)
    {p : String → Bool} (keepsA : p a = true) (keepsB : p b = true) :
    Precedes (order.filter p) a b := by
  obtain ⟨before, after, rfl, early⟩ := h
  refine ⟨before.filter p, after.filter p, ?_, List.mem_filter.mpr ⟨early, keepsA⟩⟩
  rw [List.filter_append, List.filter_cons_of_pos keepsB]

namespace SymbolTable

variable {t : SymbolTable}

theorem nodes_constraintGraph (arena : t.IsArena) :
    (constraintGraph t.names t.ownershipEdges).nodes = t.names :=
  (weighed_constraintGraph _ _).nodes.trans (nodes_hardGraph arena.nodup_names _)

theorem nodup_constraintGraph (t : SymbolTable) :
    (constraintGraph t.names t.ownershipEdges).nodes.Nodup := by
  rw [(weighed_constraintGraph _ _).nodes]
  exact nodup_hardGraph _ _

theorem acyclic_constraintGraph (none : (hardGraph t.names t.ownershipEdges).cycle? = none) :
    (constraintGraph t.names t.ownershipEdges).Acyclic :=
  (weighed_constraintGraph _ _).acyclic
    ((Digraph.cycle?_eq_none (isClosed_hardGraph t)).mp none)

theorem classify_cases (t : SymbolTable) :
    (t.hasUnfitUse = true ∧ t.classify.2 = .error (.unfit .noMember)) ∨
      (t.hasUnfitUse = false ∧ t.classify.2 =
        (dependencyOrder t.names t.ownershipEdges).map fun order =>
          ⟨t.ownershipEdges, order, relationshipGraph t.declarations t.ownershipEdges⟩) := by
  unfold classify
  cases unfit : t.hasUnfitUse with
  | true => exact .inl ⟨rfl, rfl⟩
  | false => exact .inr ⟨rfl, rfl⟩

theorem dependencyOrder_cases (t : SymbolTable) :
    (∃ cycle, (hardGraph t.names t.ownershipEdges).cycle? = some cycle ∧
        dependencyOrder t.names t.ownershipEdges = .error (.cycle cycle)) ∨
      ∃ order, (hardGraph t.names t.ownershipEdges).cycle? = none ∧
        (constraintGraph t.names t.ownershipEdges).order? = some order ∧
          dependencyOrder t.names t.ownershipEdges = .ok order := by
  unfold dependencyOrder
  cases hard : (hardGraph t.names t.ownershipEdges).cycle? with
  | some cycle => exact .inl ⟨cycle, rfl, rfl⟩
  | none =>
    cases found : (constraintGraph t.names t.ownershipEdges).order? with
    | some order => exact .inr ⟨order, rfl, rfl, rfl⟩
    | none =>
      exact absurd found ((acyclic_constraintGraph hard).order?_ne_none
        (isClosed_constraintGraph t) (nodup_constraintGraph t))

theorem perm_of_order? (arena : t.IsArena) {order : List String}
    (found : (constraintGraph t.names t.ownershipEdges).order? = some order) :
    order.Perm t.names := by
  rw [← nodes_constraintGraph arena]
  exact Digraph.perm_of_order? (isClosed_constraintGraph t) (nodup_constraintGraph t) found

theorem isDependencyOrder_of_order? (arena : t.IsArena) {order : List String} (graph : Graph)
    (hard : (hardGraph t.names t.ownershipEdges).cycle? = none)
    (found : (constraintGraph t.names t.ownershipEdges).order? = some order) :
    IsDependencyOrder t ⟨t.ownershipEdges, order, graph⟩ := by
  have weighed := weighed_constraintGraph t.names t.ownershipEdges
  have perm := perm_of_order? arena found
  have least {before after v} (split : order = before ++ v :: after) :=
    Digraph.least_of_order? (isClosed_constraintGraph t) (nodup_constraintGraph t) found split
  have placed {e} (member : e ∈ t.ownershipEdges)
      (edge : (constraintGraph t.names t.ownershipEdges).Edge e.target e.source) :
      Precedes order e.target e.source := by
    apply precedes_of_edge (fun _ _ _ split => (least split).1) _ edge
    exact perm.mem_iff.mpr (ends_of_ownershipEdges member).1
  refine ⟨perm, ?embedded, ?named, fun u v edge => use_of_constraintGraph edge,
    fun e member owned embeds => edge_constraintGraph_of_isHard member owned embeds,
    acyclic_constraintGraph hard, ?maximal, ?least⟩
  case embedded =>
    intro e member owned embeds
    exact placed member (edge_constraintGraph_of_isHard member owned embeds)
  case named =>
    intro e member owned named proper
    rcases weighed.decided e (mem_soft member owned named) proper with edge | path
    · exact .inl (placed member edge)
    · exact .inr path
  case maximal =>
    intro e member owned missing
    cases named : e.site.isHard with
    | true => exact absurd (edge_constraintGraph_of_isHard member owned named) missing
    | false => exact weighed.maximal (mem_soft member owned named) missing
  case least =>
    intro before v after (split : order = before ++ v :: after)
    obtain ⟨ready, first⟩ := least split
    have numbered {w} (member : w ∈ v :: after) : ∃ i, t.idOf? w = some i := by
      apply arena.idOf?_isSome (perm.mem_iff.mp _)
      rw [split]
      exact List.mem_append_right _ member
    have earlier := arena.pairwise_names
    rw [← nodes_constraintGraph arena] at earlier
    obtain ⟨i, place⟩ := numbered List.mem_cons_self
    refine ⟨ready, i, place, ?_⟩
    intro w member early
    obtain ⟨j, later⟩ := numbered (List.mem_cons_of_mem _ member)
    exact ⟨j, later, first earlier w member early i j place later⟩

/-- Classification of a merged table never fails for want of an order, and what it finds is a
dependency order. -/
theorem isDependencyOrder_of_classify {units : List (UnitRecord String)} {t : SymbolTable}
    (merged : merge units = (t, none)) :
    t.classify.2 ≠ .error .unordered ∧
      ∀ c, t.classify.2 = .ok c → IsDependencyOrder t c := by
  have arena : t.IsArena := by
    have built := built_merge units
    rw [merged] at built
    exact built.isArena
  rcases classify_cases t with ⟨_, outcome⟩ | ⟨_, outcome⟩
  · rw [outcome]
    exact ⟨by simp, by simp⟩
  · rcases dependencyOrder_cases t with ⟨cycle, _, none⟩ | ⟨order, hard, found, some⟩
    · rw [outcome, none]
      exact ⟨by simp [Except.map], by simp [Except.map]⟩
    · rw [outcome, some]
      refine ⟨by simp [Except.map], ?_⟩
      rintro c same
      cases same
      exact isDependencyOrder_of_order? arena _ hard found

/-- Two declarations that return each other, one of which has a base. -/
def mutualReturns : List (UnitRecord String) :=
  let returning (name result : String) (bases : List String) : Declaration String :=
    { name, kind := .ordinary, bases, fields := [], isFull := true, unit := .null
      methods :=
        [{ name := "other", parameters := [], returnType := some (.named result false)
           isPure := false, isConst := false, visibility := .public }] }
  [{ name := .null
     declarations :=
       [returning "A" "B" [], returning "B" "A" ["C"],
        { name := "C", kind := .ordinary, bases := [], methods := [], fields := [], isFull := true
          unit := .null }]
     bodies := [], header := .null }]

/-- The first return is honoured, and the second one gives way to it. -/
theorem isDependencyOrder_mutualReturns :
    merge mutualReturns = ((merge mutualReturns).1, none) ∧
      ∃ c, (merge mutualReturns).1.classify.2 = .ok c ∧ c.order = ["C", "B", "A"] ∧
        IsDependencyOrder (merge mutualReturns).1 c := by
  have merged : merge mutualReturns = ((merge mutualReturns).1, none) := by rfl
  have order : (merge mutualReturns).1.classify.2.toOption.map (·.order) =
      some ["C", "B", "A"] := by rfl
  refine ⟨merged, ?_⟩
  have sound := (isDependencyOrder_of_classify merged).2
  cases classified : (merge mutualReturns).1.classify.2 with
  | error fault =>
    rw [classified] at order
    cases order
  | ok c =>
    rw [classified] at order
    exact ⟨c, rfl, Option.some.inj order, sound c classified⟩

end SymbolTable
end Understudy
