import Understudy.Proofs.Symbols.Arena

/-! What adding one declaration does to a table.

There are four ways: a new name gets the next place of the arena, and a name that has a place passes
the declaration over, gives it the place of a forward one, or reports that it differs. No way moves
a name or drops one.
-/

set_option autoImplicit false

namespace Understudy

open Understudy.Cpp

theorem Revisit.of_spec (kept d : Declaration String) :
    match Revisit.of kept d with
    | .passed => d.isFull = false ∨ kept.isFull = true ∧ kept.sameContent d = true
    | .takesOver => d.isFull = true ∧ kept.isFull = false
    | .differs => d.isFull = true ∧ kept.isFull = true ∧ kept.sameContent d = false := by
  unfold Revisit.of
  cases d.isFull <;> cases kept.isFull <;> cases kept.sameContent d <;> simp

namespace SymbolTable

/-- How a table takes a sound declaration, and whether it then holds it. -/
inductive Adds (t : SymbolTable) (d : Declaration String) : SymbolTable → Bool → Prop where
  | appends : t.get? d.name = none → Adds t d (t.append d) true
  | passes {kept : Declaration String} : t.get? d.name = some kept →
      d.isFull = false ∨ kept.isFull = true ∧ kept.sameContent d = true → Adds t d t false
  | takesOver {id : Nat} {kept : Declaration String} : t.idOf? d.name = some id →
      t.get? d.name = some kept → d.isFull = true → kept.isFull = false →
        Adds t d { t with declarations := t.declarations.set id d } true
  | differs {kept : Declaration String} : t.get? d.name = some kept → d.isFull = true →
      kept.isFull = true → kept.sameContent d = false →
        Adds t d (t.report (duplicateReport (.text d.name) "definition" d.unit kept.unit)) false

variable {t after : SymbolTable} {d : Declaration String} {stored : Bool}

theorem get?_eq_none (arena : t.IsArena) {name : String} :
    t.get? name = none ↔ t.idOf? name = none := by
  unfold get?
  cases place : t.idOf? name with
  | none => simp
  | some id =>
    obtain ⟨d, found, _⟩ := (arena.ids name id).mp place
    simp [found]

theorem add_eq_error {fault : Malformed} :
    t.add d = .error fault ↔ ∃ reason, malformation? d = some reason ∧
      fault = ⟨.text d.name, reason⟩ := by
  unfold add
  cases malformation? d with
  | some reason => simp [eq_comm]
  | none =>
    simp only [reduceCtorEq, false_and, exists_false, iff_false]
    split
    · simp
    · split <;> simp

theorem IsArena.adds (arena : t.IsArena) (added : t.add d = .ok (after, stored)) :
    t.Adds d after stored := by
  unfold SymbolTable.add at added
  split at added
  next => cases added
  next =>
    split at added
    next new =>
      cases added
      exact .appends ((get?_eq_none arena).mpr new)
    next id place =>
      obtain ⟨kept, found, named⟩ := (arena.ids d.name id).mp place
      have known : t.get? d.name = some kept := by
        unfold get?
        simp [place, found]
      rw [found] at added
      change Except.ok (t.revisit id kept d) = _ at added
      have how := Revisit.of_spec kept d
      unfold revisit at added
      cases which : Revisit.of kept d with
      | passed =>
        rw [which] at how added
        cases added
        exact .passes known how
      | takesOver =>
        rw [which] at how added
        cases added
        exact .takesOver place known how.1 how.2
      | differs =>
        rw [which] at how added
        cases added
        exact .differs known how.1 how.2.1 how.2.2

theorem Adds.names_eq (arena : t.IsArena) (adds : t.Adds d after stored) :
    after.names = if (t.get? d.name).isSome then t.names else t.names ++ [d.name] := by
  cases adds with
  | appends new => simp [new, names, SymbolTable.append]
  | passes known => simp [known]
  | differs known => simp [known, names, report]
  | @takesOver id kept place known =>
    rw [known]
    obtain ⟨other, found, named⟩ := (arena.ids d.name id).mp place
    simp only [Option.isSome_some, if_true, names, List.map_set]
    -- The declaration that is put there has the name of the one it replaces.
    apply List.ext_getElem?
    intro i
    by_cases here : i = id
    · subst here
      rw [List.getElem?_set_self (by simpa using (List.getElem?_eq_some_iff.mp found).1),
        List.getElem?_map, found, Option.map_some, named]
    · rw [List.getElem?_set_ne (Ne.symm here)]

end SymbolTable
end Understudy
