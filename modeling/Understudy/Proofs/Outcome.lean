/-! What a computation that may fail comes to, step by step. -/

set_option autoImplicit false

namespace Understudy

theorem eq_ok_of_toOption {α ε : Type} {outcome : Except ε α} {x : α}
    (found : outcome.toOption = some x) : outcome = .ok x := by
  cases outcome with
  | error => cases found
  | ok y => exact congrArg _ (Option.some.inj found)

theorem exists_of_bind_eq_ok {α β ε : Type} {first : Except ε α} {rest : α → Except ε β} {y : β}
    (made : first >>= rest = .ok y) : ∃ x, first = .ok x ∧ rest x = .ok y := by
  cases first with
  | error => cases made
  | ok x => exact ⟨x, rfl, made⟩

theorem mapError_eq_ok {α ε ε' : Type} {outcome : Except ε α} {f : ε → ε'} {x : α} :
    outcome.mapError f = .ok x ↔ outcome = .ok x := by
  cases outcome with
  | error => exact iff_of_false nofun nofun
  | ok =>
    constructor <;>
      · rintro ⟨⟩
        rfl

theorem mapM_ok {α β γ ε : Type} {f : α → Except ε β} {view : β → γ} {source : α → γ}
    {Fit : β → Prop} {xs : List α}
    (each : ∀ x ∈ xs, ∃ y, f x = .ok y ∧ view y = source x ∧ Fit y) :
    ∃ ys, xs.mapM f = .ok ys ∧ ys.map view = xs.map source ∧ ∀ y ∈ ys, Fit y := by
  induction xs with
  | nil => exact ⟨[], rfl, rfl, by simp⟩
  | cons x rest ih =>
    obtain ⟨y, first, same, fit⟩ := each x List.mem_cons_self
    obtain ⟨ys, later, others, fits⟩ := ih fun z member => each z (List.mem_cons_of_mem _ member)
    refine ⟨y :: ys, ?_, ?_, List.forall_mem_cons.mpr ⟨fit, fits⟩⟩
    · rw [List.mapM_cons, first, later]
      rfl
    · rw [List.map_cons, List.map_cons, same, others]

section State

variable {α β ε σ : Type} {first : ExceptT ε (StateM σ) α} {next : α → ExceptT ε (StateM σ) β}
  {start after : σ}

theorem run_bind_eq_ok {b : β} :
    (first >>= next).run.run start = (.ok b, after) ↔
      ∃ a between, first.run.run start = (.ok a, between) ∧
        (next a).run.run between = (.ok b, after) := by
  rw [ExceptT.run_bind, StateT.run_bind]
  rcases StateT.run first.run start with ⟨fault | a, between⟩
  · refine iff_of_false (fun same => nomatch same) ?_
    rintro ⟨_, _, same, _⟩
    cases same
  · constructor
    · exact fun ran => ⟨a, between, rfl, ran⟩
    · rintro ⟨_, _, same, ran⟩
      cases same
      exact ran

theorem run_bind_eq_error {fault : ε} :
    (first >>= next).run.run start = (.error fault, after) ↔
      first.run.run start = (.error fault, after) ∨
        ∃ a between, first.run.run start = (.ok a, between) ∧
          (next a).run.run between = (.error fault, after) := by
  rw [ExceptT.run_bind, StateT.run_bind]
  rcases StateT.run first.run start with ⟨refused | a, between⟩
  · constructor
    · intro same
      cases same
      exact .inl rfl
    · rintro (same | ⟨_, _, same, _⟩) <;> cases same
      rfl
  · constructor
    · exact fun ran => .inr ⟨a, between, rfl, ran⟩
    · rintro (same | ⟨_, _, same, ran⟩) <;> cases same
      exact ran

end State
end Understudy
