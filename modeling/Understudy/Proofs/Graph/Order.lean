import Mathlib.Data.Fintype.Card
import Mathlib.Data.Fintype.EquivFin
import Mathlib.Data.Fintype.Sets
import Mathlib.Order.WellFounded
import Understudy.Proofs.Graph.Path

/-! Topological orders.

The order that is sought places nodes one by one, always the first that is ready. Keeping a queue of
ready nodes and counting down what the others wait for finds that order: each time a node is placed,
the queue holds exactly the nodes that are ready, in the order of the graph.
-/

set_option autoImplicit false

open Relation

namespace Understudy.Digraph

variable {g : Digraph}

/-! ## Placing the first ready node -/

def isReady (g : Digraph) (waiting : List String) (v : String) : Bool :=
  (g.predecessors v).all fun u => !waiting.contains u

/-- Place the waiting nodes one by one, always the first one that is ready. -/
def place (g : Digraph) : Nat → List String → Option (List String)
  | _, [] => some []
  | 0, _ :: _ => none
  | fuel + 1, waiting =>
    match waiting.find? (g.isReady waiting) with
    | none => none
    | some v => (g.place fuel (waiting.erase v)).map (v :: ·)

theorem isReady_eq_true {waiting : List String} {v : String} :
    g.isReady waiting v = true ↔ ∀ u, g.Edge u v → u ∉ waiting := by
  simp [isReady, mem_predecessors]

theorem Acyclic.exists_isReady (acyclic : g.Acyclic) {waiting : List String}
    (some : waiting ≠ []) : ∃ v ∈ waiting, g.isReady waiting v = true := by
  -- The nodes that wait are finitely many, so one of them has none of the others before it.
  let Before (u v : { v // v ∈ waiting }) : Prop := TransGen g.Edge u v
  have : IsTrans { v // v ∈ waiting } Before := ⟨fun _ _ _ => TransGen.trans⟩
  have : Std.Irrefl Before := ⟨fun v => acyclic v⟩
  have founded : WellFounded Before := Finite.wellFounded_of_trans_of_irrefl Before
  obtain ⟨v, member⟩ := List.exists_mem_of_ne_nil waiting some
  obtain ⟨⟨first, waits⟩, _, least⟩ := founded.has_min Set.univ ⟨⟨v, member⟩, trivial⟩
  refine ⟨first, waits, isReady_eq_true.mpr ?_⟩
  intro u edge waits
  exact least ⟨u, waits⟩ trivial (.single edge)

theorem Acyclic.place_ne_none (acyclic : g.Acyclic) {fuel : Nat} {waiting : List String}
    (enough : waiting.length ≤ fuel) : g.place fuel waiting ≠ none := by
  induction fuel generalizing waiting with
  | zero =>
    have done : waiting = [] := List.length_eq_zero_iff.mp (by omega)
    subst done
    simp [place]
  | succ fuel ih =>
    cases waiting with
    | nil => simp [place]
    | cons head rest =>
      simp only [place]
      cases found : (head :: rest).find? (g.isReady (head :: rest)) with
      | none =>
        obtain ⟨v, member, ready⟩ := acyclic.exists_isReady (List.cons_ne_nil head rest)
        exact absurd ready (List.find?_eq_none.mp found v member)
      | some v =>
        have member := List.mem_of_find?_eq_some found
        have shorter := List.length_erase_of_mem member
        rw [List.length_cons] at enough shorter
        have placed := @ih ((head :: rest).erase v) (by omega)
        simpa using placed

theorem perm_of_place {fuel : Nat} {waiting order : List String}
    (placed : g.place fuel waiting = some order) : order.Perm waiting := by
  induction fuel generalizing waiting order with
  | zero =>
    cases waiting with
    | nil => simp_all [place]
    | cons => simp [place] at placed
  | succ fuel ih =>
    cases waiting with
    | nil => simp_all [place]
    | cons head rest =>
      simp only [place] at placed
      split at placed
      next => cases placed
      next v found =>
        obtain ⟨later, tail, rfl⟩ := Option.map_eq_some_iff.mp placed
        have member := List.mem_of_find?_eq_some found
        exact ((ih tail).cons v).trans (List.perm_cons_erase member).symm

/-- Each node is placed as the first ready one of those that are placed from then on, which wait
in their old order. -/
theorem find?_of_place {fuel : Nat} {waiting order before after : List String} {v : String}
    (placed : g.place fuel waiting = some order) (split : order = before ++ v :: after) :
    ∃ left : List String, left.Sublist waiting ∧ left.Perm (v :: after) ∧
      left.find? (g.isReady left) = some v := by
  induction fuel generalizing waiting order before with
  | zero =>
    cases waiting with
    | nil => simp_all [place]
    | cons => simp [place] at placed
  | succ fuel ih =>
    cases waiting with
    | nil => simp_all [place]
    | cons head rest =>
      have perm := perm_of_place placed
      simp only [place] at placed
      split at placed
      next => cases placed
      next u found =>
        obtain ⟨later, tail, rfl⟩ := Option.map_eq_some_iff.mp placed
        cases before with
        | nil =>
          cases split
          exact ⟨head :: rest, List.Sublist.refl _, perm.symm, found⟩
        | cons w before =>
          cases split
          obtain ⟨left, sub, perm, found⟩ := ih tail rfl
          exact ⟨left, sub.trans List.erase_sublist, perm, found⟩

/-! ## Counting down predecessors -/

/-- How many predecessors a node waits for while some nodes, each as often as it is listed, are still
to be counted down. -/
def due (g : Digraph) (waiting pending : List String) (v : String) : Nat :=
  (g.predecessors v).countP (waiting.contains ·) + pending.count v

theorem due_cons (g : Digraph) (waiting pending : List String) (v w : String) :
    g.due waiting (w :: pending) v = g.due waiting pending v + if w = v then 1 else 0 := by
  simp [due, List.count_cons, Nat.add_assoc]

theorem due_eq_zero {waiting : List String} {v : String} :
    (g.due waiting [] v == 0) = g.isReady waiting v := by
  rw [Bool.eq_iff_iff, isReady_eq_true]
  simp [due, List.countP_eq_zero, mem_predecessors]

theorem due_erase {waiting : List String} (distinct : waiting.Nodup) {v : String}
    (waits : v ∈ waiting) (w : String) :
    g.due (waiting.erase v) (g.successors v) w = g.due waiting [] w := by
  unfold due successors predecessors
  rw [List.count_nil, Nat.add_zero]
  induction g.edges with
  | nil => rfl
  | cons e rest ih =>
    -- Only an edge that leads from the one node to the other counts on the one side alone.
    have left : e.1 ∈ waiting.erase v ↔ e.1 ≠ v ∧ e.1 ∈ waiting := distinct.mem_erase_iff
    by_cases starts : e.1 = v <;> by_cases ends : e.2 = w
    · simp_all
      omega
    · simp_all
    · simp_all [List.countP_cons]
      omega
    · simp_all

/-- A sort that has placed all but the waiting nodes, and counted down all but the pending ones. -/
structure Sorting.Tracks (s : Sorting) (g : Digraph) (waiting pending : List String) : Prop where
  queue : s.queue = waiting.filter (g.due waiting pending · == 0)
  indegrees : ∀ v, s.indegrees.get? v =
    if v ∈ waiting ∧ g.due waiting pending v ≠ 0 then some (g.due waiting pending v) else none

theorem pairwise_isEarlier (distinct : g.nodes.Nodup) :
    g.nodes.Pairwise fun u v => g.isEarlier u v = true := by
  rw [List.pairwise_iff_getElem]
  intro i j hi hj before
  simpa [isEarlier, distinct.idxOf_getElem] using before

theorem enqueue_filter {waiting : List String} (distinct : g.nodes.Nodup)
    (sub : waiting.Sublist g.nodes) {v : String} (waits : v ∈ waiting) {p : String → Bool}
    (out : p v = false) :
    g.enqueue v (waiting.filter p) = waiting.filter fun u => p u || u == v := by
  have once := sub.nodup distinct
  have earlier := (pairwise_isEarlier distinct).sublist sub
  -- The node stands behind the earlier ones of the waiting nodes and before the later ones.
  obtain ⟨before, after, rfl⟩ := List.append_of_mem waits
  obtain ⟨_, tail, ahead⟩ := List.pairwise_append.mp earlier
  have first : ∀ u ∈ before.filter p, g.isEarlier u v = true := fun u member =>
    ahead u (List.mem_filter.mp member).1 v List.mem_cons_self
  have last : ∀ u ∈ after.filter p, ¬ g.isEarlier u v = true := by
    intro u member early
    have late := (List.pairwise_cons.mp tail).1 u (List.mem_filter.mp member).1
    simp only [isEarlier, decide_eq_true_eq] at early late
    omega
  have rest : (after.filter p).takeWhile (g.isEarlier · v) = [] ∧
      (after.filter p).dropWhile (g.isEarlier · v) = after.filter p := by
    cases queued : after.filter p with
    | nil => exact ⟨rfl, rfl⟩
    | cons u _ =>
      have late := last u (queued ▸ List.mem_cons_self)
      exact ⟨List.takeWhile_cons_of_neg late, List.dropWhile_cons_of_neg late⟩
  have apart : ∀ u ∈ before ++ after, (p u || u == v) = p u := by
    intro u member
    have other : u ≠ v := by
      rintro rfl
      exact (List.nodup_cons.mp (List.nodup_middle.mp once)).1 member
    simp [other]
  rw [List.filter_append, List.filter_append, List.filter_cons_of_neg (by simp [out]),
    List.filter_cons_of_pos (by simp), enqueue, List.takeWhile_append_of_pos first,
    List.dropWhile_append_of_pos first, rest.1, rest.2, List.append_nil,
    List.filter_congr fun u member => apart u (List.mem_append_left _ member),
    List.filter_congr fun u member => apart u (List.mem_append_right _ member)]

namespace Sorting.Tracks

variable {s : Sorting} {waiting pending : List String} {v : String}

/-- A node that was placed already is passed over. -/
theorem pass (gone : v ∉ waiting) (tracks : s.Tracks g waiting (v :: pending)) :
    s.Tracks g waiting pending := by
  have same : ∀ w ∈ waiting, g.due waiting (v :: pending) w = g.due waiting pending w := by
    intro w member
    have other : v ≠ w := by
      rintro rfl
      exact gone member
    rw [due_cons, if_neg other, Nat.add_zero]
  refine ⟨?queue, fun w => ?indegree⟩
  case queue =>
    rw [tracks.queue]
    exact List.filter_congr fun w member => by rw [same w member]
  case indegree =>
    rw [tracks.indegrees]
    by_cases member : w ∈ waiting
    · rw [same w member]
    · simp [member]

theorem release (distinct : g.nodes.Nodup) (sub : waiting.Sublist g.nodes) (waits : v ∈ waiting)
    (last : g.due waiting pending v = 0) (tracks : s.Tracks g waiting (v :: pending)) :
    Sorting.Tracks ⟨g.enqueue v s.queue, s.indegrees.erase v⟩ g waiting pending := by
  refine ⟨?queue, fun w => ?indegree⟩
  case queue =>
    rw [tracks.queue, enqueue_filter distinct sub waits (by simp [due_cons])]
    apply List.filter_congr
    intro w _
    by_cases same : v = w
    · simp [← same, last]
    · simp [due_cons, same, Ne.symm same]
  case indegree =>
    rw [Assoc.get?_erase, tracks.indegrees, due_cons]
    by_cases same : w = v
    · simp [same, last]
    · simp [same, Ne.symm same]

theorem lower (waits : v ∈ waiting) (others : g.due waiting pending v ≠ 0)
    (tracks : s.Tracks g waiting (v :: pending)) :
    Sorting.Tracks ⟨s.queue, s.indegrees.set v (g.due waiting pending v)⟩ g waiting pending := by
  refine ⟨?queue, fun w => ?indegree⟩
  case queue =>
    rw [tracks.queue]
    apply List.filter_congr
    intro w _
    by_cases same : v = w
    · simp [← same, due_cons, others]
    · simp [due_cons, same]
  case indegree =>
    by_cases same : w = v
    · rw [same, Assoc.get?_set_self, if_pos ⟨waits, others⟩]
    · rw [Assoc.get?_set_ne _ _ same, tracks.indegrees, due_cons, if_neg (Ne.symm same),
        Nat.add_zero]

theorem countDown (distinct : g.nodes.Nodup) (sub : waiting.Sublist g.nodes)
    (tracks : s.Tracks g waiting (v :: pending)) : (g.countDown s v).Tracks g waiting pending := by
  have counted := tracks.indegrees v
  rw [due_cons, if_pos rfl] at counted
  unfold Digraph.countDown
  by_cases waits : v ∈ waiting
  · rw [if_pos ⟨waits, Nat.succ_ne_zero _⟩] at counted
    rw [counted]
    dsimp only
    split
    next last => exact tracks.release distinct sub waits (by omega)
    next others => exact tracks.lower waits (by omega)
  · rw [if_neg fun both => waits both.1] at counted
    rw [counted]
    exact tracks.pass waits

theorem foldl_countDown (distinct : g.nodes.Nodup) (sub : waiting.Sublist g.nodes)
    (tracks : s.Tracks g waiting pending) :
    (pending.foldl g.countDown s).Tracks g waiting [] := by
  induction pending generalizing s with
  | nil => exact tracks
  | cons v rest ih => exact ih (tracks.countDown distinct sub)

theorem head?_queue (tracks : s.Tracks g waiting []) :
    s.queue.head? = waiting.find? (g.isReady waiting) := by
  rw [tracks.queue, ← List.head?_filter]
  simp only [due_eq_zero]

/-- The first node of the queue is placed, and its successors are still to be counted down. -/
theorem next {queue : List String} {indegrees : Assoc Nat} (distinct : waiting.Nodup)
    (tracks : Sorting.Tracks ⟨v :: queue, indegrees⟩ g waiting []) :
    Sorting.Tracks ⟨queue, indegrees⟩ g (waiting.erase v) (g.successors v) := by
  have queued : v :: queue = waiting.filter (g.due waiting [] · == 0) := tracks.queue
  have ready : v ∈ waiting.filter (g.due waiting [] · == 0) := queued ▸ List.mem_cons_self
  obtain ⟨waits, lacks⟩ := List.mem_filter.mp ready
  simp only [beq_iff_eq] at lacks
  refine ⟨?_, fun w => ?_⟩
  · simp only [due_erase distinct waits]
    calc queue
        = (v :: queue).erase v := (List.erase_cons_head v queue).symm
      _ = (waiting.filter (g.due waiting [] · == 0)).filter (· != v) := by
        rw [queued, (distinct.filter _).erase_eq_filter]
      _ = (waiting.erase v).filter (g.due waiting [] · == 0) := by
        rw [distinct.erase_eq_filter, List.filter_filter, List.filter_filter]
        simp only [Bool.and_comm]
  · rw [tracks.indegrees, due_erase distinct waits]
    simp only [distinct.mem_erase_iff]
    by_cases same : w = v
    · simp [same, lacks]
    · simp [same]

/-- When the queue is empty, the nodes that still wait are those that wait for others. -/
theorem isEmpty_indegrees (tracks : s.Tracks g waiting []) (done : s.queue = []) :
    s.indegrees.isEmpty = waiting.isEmpty := by
  have none : waiting.filter (g.due waiting [] · == 0) = [] := tracks.queue.symm.trans done
  cases left : waiting with
  | nil =>
    cases entries : s.indegrees with
    | nil => rfl
    | cons entry rest =>
      have counted := tracks.indegrees entry.1
      simp [entries, Assoc.get?, left] at counted
  | cons v rest =>
    have member : v ∈ waiting := left ▸ List.mem_cons_self
    have waits := List.filter_eq_nil_iff.mp none v member
    cases entries : s.indegrees with
    | nil =>
      have counted := tracks.indegrees v
      rw [if_pos ⟨member, by simpa using waits⟩, entries] at counted
      cases counted
    | cons => rfl

end Sorting.Tracks

theorem tracks_sorting (closed : g.IsClosed) : g.sorting.Tracks g g.nodes [] := by
  have all (v : String) : g.due g.nodes [] v = g.indegree v := by
    rw [due, List.count_nil, Nat.add_zero, indegree, List.countP_eq_length]
    intro u member
    exact List.contains_iff_mem.mpr (closed u v (mem_predecessors.mp member)).1
  refine ⟨?_, fun v => ?_⟩
  · simp only [sorting, all]
  · simp only [sorting, all, Assoc.get?_map_self, List.mem_filter, bne_iff_ne]

/-- Counting down places the first ready node each time. -/
theorem drain_eq_place {fuel : Nat} {s : Sorting} {waiting : List String}
    (distinct : g.nodes.Nodup) (sub : waiting.Sublist g.nodes)
    (tracks : s.Tracks g waiting []) : g.drain fuel s = g.place fuel waiting := by
  -- Each node that is placed takes the invariant on to the nodes that are left.
  induction fuel generalizing s waiting with
  | zero =>
    obtain ⟨queue, indegrees⟩ := s
    cases queue with
    | nil =>
      have ended : indegrees.isEmpty = waiting.isEmpty := tracks.isEmpty_indegrees rfl
      rw [drain, ended]
      cases waiting <;> rfl
    | cons v queue =>
      cases waiting with
      | nil => cases tracks.queue
      | cons => rfl
  | succ fuel ih =>
    have first := tracks.head?_queue
    obtain ⟨queue, indegrees⟩ := s
    cases waiting with
    | nil =>
      have ended : indegrees.isEmpty = true := tracks.isEmpty_indegrees tracks.queue
      have idle : queue = [] := tracks.queue
      rw [idle, drain, if_pos ended, place]
    | cons head rest =>
      simp only [place, ← first]
      cases queue with
      | nil =>
        have ended : indegrees.isEmpty = false := tracks.isEmpty_indegrees rfl
        rw [drain, ended]
        rfl
      | cons v queue =>
        have ready : v ∈ head :: rest := List.mem_of_find?_eq_some first.symm
        have tail := tracks.next (sub.nodup distinct)
        rw [drain, ih (List.erase_sublist.trans sub)
          (tail.foldl_countDown distinct (List.erase_sublist.trans sub))]
        rfl

theorem order?_eq_place (closed : g.IsClosed) (distinct : g.nodes.Nodup) :
    g.order? = g.place g.nodes.length g.nodes :=
  drain_eq_place distinct (List.Sublist.refl _) (tracks_sorting closed)

theorem perm_of_order? (closed : g.IsClosed) (distinct : g.nodes.Nodup) {order : List String}
    (found : g.order? = some order) : order.Perm g.nodes := by
  rw [order?_eq_place closed distinct] at found
  exact perm_of_place found

/-- At each place of the order stands a node all of whose predecessors came before, and of all
such nodes the earliest one of the graph. -/
theorem least_of_order? (closed : g.IsClosed) (nodup : g.nodes.Nodup) {order : List String}
    (found : g.order? = some order) {before after : List String} {v : String}
    (split : order = before ++ v :: after) :
    (∀ u, g.Edge u v → u ∈ before) ∧
      ∀ {Earlier : String → String → Prop}, g.nodes.Pairwise Earlier →
        ∀ w ∈ after, (∀ u, g.Edge u w → u ∈ before) → Earlier v w := by
  rw [order?_eq_place closed nodup] at found
  obtain ⟨left, sub, perm, first⟩ := find?_of_place found split
  have whole : order.Perm g.nodes := perm_of_place found
  have distinct : order.Nodup := whole.nodup_iff.mpr nodup
  subst split
  -- What is left is what is placed later, so a node is ready when its predecessors stand before.
  have ready : ∀ w, g.isReady left w = true ↔ ∀ u, g.Edge u w → u ∈ before := by
    intro w
    rw [isReady_eq_true]
    apply forall_congr'
    intro u
    apply imp_congr_right
    intro edge
    have inside := whole.mem_iff.mpr (closed u w edge).1
    have apart := (List.nodup_append.mp distinct).2.2
    rw [perm.mem_iff]
    constructor
    · intro notLeft
      exact (List.mem_append.mp inside).resolve_right notLeft
    · intro early late
      exact apart u early u late rfl
  refine ⟨(ready v).mp (List.find?_some first), ?_⟩
  intro Earlier ordered w member early
  obtain ⟨_, skipped, rest, rfl, unready⟩ := List.find?_eq_some_iff_append.mp first
  have late : w ∈ skipped ++ v :: rest := perm.mem_iff.mpr (List.mem_cons_of_mem v member)
  -- The node was passed over, is the one placed, or comes after it in the graph.
  rcases List.mem_append.mp late with skip | late
  · have refused := unready w skip
    simp [(ready w).mpr early] at refused
  · rcases List.mem_cons.mp late with rfl | late
    · have once := (List.nodup_append.mp distinct).2.1
      exact absurd member (List.nodup_cons.mp once).1
    · have pairs := (List.pairwise_append.mp (ordered.sublist sub)).2.1
      exact (List.pairwise_cons.mp pairs).1 w late

theorem Acyclic.order?_ne_none (acyclic : g.Acyclic) (closed : g.IsClosed)
    (distinct : g.nodes.Nodup) : g.order? ≠ none := by
  rw [order?_eq_place closed distinct]
  exact acyclic.place_ne_none (Nat.le_refl _)

end Understudy.Digraph
