import Mathlib.Data.List.Basic
import Understudy.Text.Numeral

/-! Texts that are told from what follows them.

A text without a mark ends where the mark stands, and so does a number before a mark that is no
digit.
-/

set_option autoImplicit false

namespace Understudy.Text

/-- What is written item by item is told if each item is told from what follows it and what comes
last starts no item. -/
theorem flatMap_inj {α : Type} {write : α → List Char} {items more : List α}
    {rest others : List Char}
    (told : ∀ a ∈ items, ∀ b ∈ more, ∀ r s, write a ++ r = write b ++ s → a = b ∧ r = s)
    (ends : ∀ a ∈ items, ∀ r, write a ++ r ≠ others) (stops : ∀ b ∈ more, ∀ s, write b ++ s ≠ rest)
    (same : items.flatMap write ++ rest = more.flatMap write ++ others) :
    items = more ∧ rest = others := by
  -- Both lists are taken apart in step: where one ends first, the other's item would start its rest.
  induction items generalizing more with
  | nil =>
    cases more with
    | nil => exact ⟨rfl, same⟩
    | cons b more =>
      rw [List.flatMap_cons, List.append_assoc] at same
      exact absurd same.symm (stops b List.mem_cons_self _)
  | cons a items ih =>
    rw [List.flatMap_cons, List.append_assoc] at same
    cases more with
    | nil => exact absurd same (ends a List.mem_cons_self _)
    | cons b more =>
      rw [List.flatMap_cons, List.append_assoc] at same
      obtain ⟨rfl, after⟩ := told a List.mem_cons_self b List.mem_cons_self _ _ same
      obtain ⟨rfl, rests⟩ := ih
        (fun x inside y among => told x (List.mem_cons_of_mem _ inside) y
          (List.mem_cons_of_mem _ among))
        (fun x inside => ends x (List.mem_cons_of_mem _ inside))
        (fun y among => stops y (List.mem_cons_of_mem _ among)) after
      exact ⟨rfl, rests⟩

theorem append_mark_inj {mark : Char} {s t rest others : List Char} (clean : mark ∉ s)
    (other : mark ∉ t) (same : s ++ mark :: rest = t ++ mark :: others) :
    s = t ∧ rest = others := by
  rw [← List.flatMap_singleton' s, ← List.flatMap_singleton' t] at same
  have apart {u tail : List Char} (clean : mark ∉ u) (c : Char) (inside : c ∈ u) (r : List Char) :
      [c] ++ r ≠ mark :: tail := by
    intro first
    rw [(List.cons.inj first).1] at inside
    exact clean inside
  obtain ⟨texts, rests⟩ := flatMap_inj (fun _ _ _ _ _ _ => List.cons.inj) (apart clean)
    (apart other) same
  exact ⟨texts, (List.cons.inj rests).2⟩

theorem number_mark_inj {mark : Char} (plain : mark.isDigit = false) {m n : Nat}
    {rest others : List Char}
    (same : (toString m).toList ++ mark :: rest = (toString n).toList ++ mark :: others) :
    m = n ∧ rest = others := by
  have clean (n : Nat) : mark ∉ (toString n).toList := by
    intro inside
    rw [show toString n = n.repr from rfl, Nat.toList_repr] at inside
    have digit := Nat.isDigit_of_mem_toDigits (by decide) (by decide) inside
    rw [plain] at digit
    cases digit
  obtain ⟨numbers, rests⟩ := append_mark_inj (clean m) (clean n) same
  exact ⟨toString_inj (String.toList_inj.mp numbers), rests⟩

end Understudy.Text
