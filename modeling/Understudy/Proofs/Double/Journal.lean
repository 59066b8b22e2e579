import Understudy.Double.Bench
import Understudy.Proofs.Outcome

/-! What a journal says of a counter.

Of all that has befallen a counter, the calls since its last reset count. Its parameters are those of
the last of these calls whose arguments could all be kept.
-/

set_option autoImplicit false

namespace Understudy

open Understudy.Cpp

/-! ## Keeping arguments -/

/-- What is kept of the arguments of a call: of a reference the datum itself, of all else a copy. The
copies are made one after the other. -/
inductive Kept : List Parameter → List Datum → Heap → List Datum → Heap → Prop where
  | nil (h : Heap) : Kept [] [] h [] h
  | reference {p : Parameter} {params : List Parameter} {d : Datum} {args kept : List Datum}
      {h after : Heap} : p.type.isReference = true → Kept params args h kept after →
        Kept (p :: params) (d :: args) h (d :: kept) after
  | value {p : Parameter} {params : List Parameter} {d copy : Datum} {args kept : List Datum}
      {h between after : Heap} : p.type.isReference = false →
        (Work.copy d).run.run h = (.ok copy, between) → Kept params args between kept after →
          Kept (p :: params) (d :: args) h (copy :: kept) after

theorem Bench.keep_eq_ok {params : List Parameter} {args kept : List Datum} {h after : Heap}
    (arity : args.length = params.length) :
    (Bench.keep params args).run.run h = (.ok kept, after) ↔ Kept params args h kept after := by
  -- Arguments are kept from left to right, each copy made on the heap that the last one left.
  induction params generalizing args kept h with
  | nil =>
    obtain rfl := List.length_eq_zero_iff.mp arity
    constructor
    · intro ran
      cases ran
      exact .nil _
    · rintro ⟨⟩
      rfl
  | cons p params ih =>
    cases args with
    | nil => cases arity
    | cons d args =>
      have same : args.length = params.length := by simpa using arity
      rw [Bench.keep]
      split
      next isReference =>
        rw [pure_bind]
        simp only [run_bind_eq_ok]
        constructor
        · rintro ⟨rest, last, ran, ⟨⟩⟩
          exact .reference isReference ((ih same).mp ran)
        · rintro (_ | ⟨_, others⟩ | ⟨isValue, _, _⟩)
          · exact ⟨_, _, (ih same).mpr others, rfl⟩
          · rw [isReference] at isValue
            cases isValue
      next isValue =>
        simp only [run_bind_eq_ok]
        constructor
        · rintro ⟨copy, between, copied, rest, last, ran, ⟨⟩⟩
          exact .value (by simpa using isValue) copied ((ih same).mp ran)
        · rintro (_ | ⟨isReference, _⟩ | ⟨_, copied, others⟩)
          · exact absurd isReference isValue
          · exact ⟨_, _, copied, _, _, (ih same).mpr others, rfl⟩

/-! ## Calls since the last reset -/

namespace Entry

def resets (number : Nat) (accessor : String) : Entry → Bool
  | .call .. => false
  | .reset n a => n == number && a == accessor
  | .resetAll n => n == number

def calls (number : Nat) (accessor : String) : Entry → Bool
  | .call n m .. => n == number && m.accessor == accessor
  | .reset .. | .resetAll _ => false

def touches (number : Nat) (accessor : String) (e : Entry) : Bool :=
  e.resets number accessor || e.calls number accessor

def Keeps : Entry → List Datum → Prop
  | .call _ m args h, kept => ∃ after, Kept m.method.parameters args h kept after
  | .reset .., _ | .resetAll _, _ => False

end Entry

/-- The calls of a method since its counter was last reset, in the order in which they started. -/
def standing (journal : List Entry) (number : Nat) (accessor : String) : List Entry :=
  ((journal.reverse.takeWhile fun e => !e.resets number accessor).reverse).filter
    (·.calls number accessor)

theorem standing_concat (journal : List Entry) (e : Entry) (number : Nat) (accessor : String) :
    standing (journal ++ [e]) number accessor =
      if e.resets number accessor then []
      else
        standing journal number accessor ++ if e.calls number accessor then [e] else [] := by
  unfold standing
  rw [List.reverse_append, List.reverse_singleton, List.singleton_append, List.takeWhile_cons]
  cases e.resets number accessor with
  | true => simp
  | false => cases called : e.calls number accessor <;> simp [called]

theorem standing_append {journal rest : List Entry} {number : Nat} {accessor : String}
    (untouched : ∀ e ∈ rest, e.touches number accessor = false) :
    standing (journal ++ rest) number accessor = standing journal number accessor := by
  induction rest generalizing journal with
  | nil => rw [List.append_nil]
  | cons e rest ih =>
    have first := untouched e List.mem_cons_self
    rw [Entry.touches, Bool.or_eq_false_iff] at first
    rw [List.append_cons, ih fun e member => untouched e (List.mem_cons_of_mem _ member),
      standing_concat, first.1, first.2]
    simp

/-- A counter says how many calls there were, and what was kept of the last one of which all
arguments could be kept. -/
structure Counter.Tells (c : Counter) (calls : List Entry) : Prop where
  count : c.calls = calls.length
  params : (∀ e ∈ calls, ∀ kept, ¬ e.Keeps kept) ∧ c.params = [] ∨
    ∃ before e after, calls = before ++ e :: after ∧ e.Keeps c.params ∧
      ∀ later ∈ after, ∀ kept, ¬ later.Keeps kept

theorem Counter.tells_fresh : Counter.fresh.Tells [] where
  count := rfl
  params := .inl ⟨by simp, rfl⟩

variable {c : Counter} {calls : List Entry} {e : Entry}

theorem Counter.Tells.keeping (tells : c.Tells calls) {kept : List Datum} (keeps : e.Keeps kept) :
    Counter.Tells ⟨c.calls + 1, kept⟩ (calls ++ [e]) where
  count := by simp [tells.count]
  params := .inr ⟨calls, e, [], rfl, keeps, by simp⟩

theorem Counter.Tells.missing (tells : c.Tells calls) (lost : ∀ kept, ¬ e.Keeps kept) :
    Counter.Tells { c with calls := c.calls + 1 } (calls ++ [e]) where
  count := by simp [tells.count]
  params := by
    rcases tells.params with ⟨none, empty⟩ | ⟨before, last, after, split, keeps, later⟩
    · refine .inl ⟨fun other member => ?_, empty⟩
      rcases List.mem_append.mp member with earlier | same
      · exact none other earlier
      · exact List.mem_singleton.mp same ▸ lost
    · refine .inr ⟨before, last, after ++ [e], by simp [split], keeps, fun other member => ?_⟩
      rcases List.mem_append.mp member with earlier | same
      · exact later other earlier
      · exact List.mem_singleton.mp same ▸ lost

end Understudy
