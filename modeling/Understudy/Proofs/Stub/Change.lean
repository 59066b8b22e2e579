import Understudy.Proofs.Stub.Memo

/-! What requests do to a generator, one change after the other.

Whatever is asked of a generator, and wherever it gives up, it changes in two ways only: it reports
what flattening a declaration finds missing, and it keeps the double of one. So what both of these
leave true stays true, with no regard to how the loop proceeds or whether it succeeds.
-/

set_option autoImplicit false

open Relation

namespace Understudy.Generator

open Understudy.Cpp

inductive Change (g : Generator) : Generator → Prop where
  | report {d : Declaration String} : d ∈ g.table.declarations → Change g (g.reportFlat d)
  | keep {d : Declaration String} {stub : Stub} :
      d ∈ g.table.declarations → g.table.buildStub g.lead d = .ok stub →
        Change g { g with memo := g.memo.set d.name stub }

abbrev Changes : Generator → Generator → Prop := ReflTransGen Change

variable {g after : Generator}

theorem buildStub_reportFlat (g : Generator) (lead : Value) (d b : Declaration String) :
    (g.reportFlat d).table.buildStub lead b = g.table.buildStub lead b :=
  SymbolTable.buildStub_diagnose _ _ _ _

theorem changes_work (fuel : Nat) (g : Generator) (worklist : List String) :
    Changes g (work fuel g worklist).1 := by
  induction fuel generalizing g worklist with
  | zero => exact .refl
  | succ fuel ih =>
    unfold work
    split
    next => exact .refl
    next name rest _ =>
      split
      next => exact .refl
      next d found =>
        -- a report comes first, whether or not the double can then be built and kept
        have declared := SymbolTable.mem_of_get? found
        have reported : Change g (g.reportFlat d) := .report declared
        dsimp only
        split
        next => exact .single reported
        next stub built =>
          have kept : Change (g.reportFlat d) { g.reportFlat d with memo := g.memo.set d.name stub } :=
            .keep declared ((g.buildStub_reportFlat g.lead d d).trans built)
          exact .head reported (.head kept (ih _ _))

theorem changes_generate (g : Generator) (name : String) : Changes g (g.generate name).1 := by
  unfold generate
  split
  next => exact .refl
  next d _ =>
    have worked := changes_work (g.table.declarations.length + 1) g [d.name]
    split
    next stuck =>
      rw [stuck] at worked
      exact worked
    next done =>
      rw [done] at worked
      split <;> exact worked

theorem changes_generateEach (g : Generator) (names : List String) :
    Changes g (g.generateEach names).1 := by
  induction names generalizing g with
  | nil => exact .refl
  | cons name rest ih =>
    have first := changes_generate g name
    unfold generateEach
    split
    next refused =>
      rw [refused] at first
      exact first
    next made =>
      rw [made] at first
      exact first.trans (ih _)

theorem changes_serveAll (g : Generator) (requests : List Request) :
    Changes g (g.serveAll requests) := by
  induction requests generalizing g with
  | nil => exact .refl
  | cons r rest ih =>
    have first : Changes g (g.serve r) := by
      rw [serve_eq]
      exact changes_generateEach g r.names
    exact first.trans (ih (g.serve r))

end Understudy.Generator
