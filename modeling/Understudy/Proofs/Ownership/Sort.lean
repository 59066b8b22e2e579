import Mathlib.Data.List.Nodup
import Understudy.Proofs.Ownership.DependencyOrder

/-! Sorting declared names.

Names are sorted by their places in a dependency order or in the arena. Either way this picks
them out of a list of all names that has each name once.
-/

set_option autoImplicit false

namespace Understudy

/-- To sort by places that grow along a list is to pick out of that list. -/
theorem mergeSort_eq_filter {order names : List String} {rank : String → Nat}
    (ranked : order.Pairwise fun a b => rank a < rank b) (distinct : names.Nodup)
    (known : ∀ n ∈ names, n ∈ order) :
    names.mergeSort (fun a b => rank a ≤ rank b) = order.filter fun n => names.contains n := by
  have apart : ∀ a ∈ order, ∀ b ∈ order, rank a = rank b → a = b := by
    intro a first b second same
    obtain ⟨i, boundI, rfl⟩ := List.mem_iff_getElem.mp first
    obtain ⟨j, boundJ, rfl⟩ := List.mem_iff_getElem.mp second
    have grows := List.pairwise_iff_getElem.mp ranked
    rcases Nat.lt_trichotomy i j with before | rfl | after
    · exact absurd same (Nat.ne_of_lt (grows i j boundI boundJ before))
    · rfl
    · exact absurd same.symm (Nat.ne_of_lt (grows j i boundJ boundI after))
  have nodup : order.Nodup := by
    apply ranked.imp
    rintro a b ordered rfl
    exact Nat.lt_irrefl _ ordered
  have perm : (names.mergeSort fun a b => rank a ≤ rank b).Perm
      (order.filter fun n => names.contains n) := by
    apply (List.mergeSort_perm _ _).trans
    apply (List.perm_ext_iff_of_nodup distinct (nodup.filter _)).mpr
    intro n
    simp only [List.mem_filter, List.contains_iff_mem]
    exact ⟨fun member => ⟨known n member, member⟩, And.right⟩
  have sorted : (names.mergeSort fun a b => rank a ≤ rank b).Pairwise (rank · ≤ rank ·) := by
    have sound := @List.pairwise_mergeSort _ (fun a b => decide (rank a ≤ rank b))
      (by
        simp only [decide_eq_true_eq]
        omega)
      (by
        simp only [Bool.or_eq_true, decide_eq_true_eq]
        omega)
      names
    simpa only [decide_eq_true_eq] using sound
  -- Both lists are sorted, and no two names share a place.
  apply perm.eq_of_pairwise _ sorted ((ranked.imp Nat.le_of_lt).filter _)
  intro a b first second before after
  have member := (List.mem_mergeSort.mp first)
  exact apart a (known a member) b (List.mem_filter.mp second).1 (Nat.le_antisymm before after)

namespace Classification

theorem position?_getElem {c : Classification} (distinct : c.order.Nodup) {i : Nat}
    (bound : i < c.order.length) : c.position? c.order[i] = some i := by
  apply List.findIdx?_eq_some_iff_getElem.mpr
  refine ⟨bound, by simp, ?_⟩
  intro j before same
  rw [beq_iff_eq, distinct.getElem_inj_iff] at same
  omega

theorem perm_sort (c : Classification) (names : List String) : (c.sort names).Perm names := by
  unfold sort
  apply ((List.mergeSort_perm _ _).append_right _).trans
  have others : (names.filter fun n => (c.position? n).isNone) =
      names.filter fun n => !(c.position? n).isSome := by
    apply List.filter_congr
    intro n _
    cases c.position? n <;> rfl
  rw [others]
  exact List.filter_append_perm _ _

theorem sort_eq_filter {c : Classification} (distinct : c.order.Nodup) {names : List String}
    (nodup : names.Nodup) (known : ∀ n ∈ names, n ∈ c.order) :
    c.sort names = c.order.filter fun n => names.contains n := by
  have placed : ∀ n ∈ names, (c.position? n).isSome = true := by
    intro n member
    obtain ⟨i, bound, rfl⟩ := List.mem_iff_getElem.mp (known n member)
    rw [position?_getElem distinct bound]
    rfl
  have all : (names.filter fun n => (c.position? n).isSome) = names :=
    List.filter_eq_self.mpr placed
  have none : (names.filter fun n => (c.position? n).isNone) = [] := by
    apply List.filter_eq_nil_iff.mpr
    intro n member
    have known := placed n member
    cases found : c.position? n with
    | none => simp [found] at known
    | some => simp
  unfold sort
  rw [all, none, List.append_nil]
  apply mergeSort_eq_filter _ nodup known
  rw [List.pairwise_iff_getElem]
  intro i j boundI boundJ before
  rw [position?_getElem distinct boundI, position?_getElem distinct boundJ]
  exact before

end Classification

namespace SymbolTable

variable {t : SymbolTable}

theorem perm_order_of_classify (arena : t.IsArena) {c : Classification}
    (classified : t.classify.2 = .ok c) : c.order.Perm t.names := by
  rcases classify_cases t with ⟨_, outcome⟩ | ⟨_, outcome⟩
  · rw [outcome] at classified
    cases classified
  · rcases dependencyOrder_cases t with ⟨_, _, none⟩ | ⟨order, _, found, some⟩
    · rw [outcome, none] at classified
      cases classified
    · rw [outcome, some] at classified
      cases classified
      exact perm_of_order? arena found

theorem IsArena.sort_eq_filter (arena : t.IsArena) {names : List String} (nodup : names.Nodup)
    (known : ∀ n ∈ names, n ∈ t.names) :
    (names.mergeSort fun a b => (t.idOf? a).getD 0 ≤ (t.idOf? b).getD 0) =
      t.names.filter fun n => names.contains n := by
  have ranked : t.names.Pairwise fun a b => (t.idOf? a).getD 0 < (t.idOf? b).getD 0 := by
    apply arena.pairwise_names.imp_of_mem
    intro a b first second ordered
    obtain ⟨i, placeA⟩ := arena.idOf?_isSome first
    obtain ⟨j, placeB⟩ := arena.idOf?_isSome second
    rw [placeA, placeB]
    exact ordered i j placeA placeB
  exact mergeSort_eq_filter ranked nodup known

end SymbolTable
end Understudy
