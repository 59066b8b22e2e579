import Understudy.Proofs.Double.Noting
import Understudy.Proofs.Ownership.Reports
import Understudy.Stub.View

/-! Reports are complete before the first double is made.

Main statement: once a merged table is classified its reports are distinct, and neither generators nor
the doubles made from them ever add one. It matters not whether classification finds an order.
-/

set_option autoImplicit false

open Relation

namespace Understudy

open Understudy.Cpp

inductive Demand where
  | generate (name : String)
  | generateAll (asked workers : Value)
  | test (s : TestStep)

namespace Bench

variable {b c : Bench}

def meet (b : Bench) : Demand → Bench
  | .generate name => { b with generator := (b.generator.generate name).1 }
  | .generateAll asked workers =>
    { b with generator := (b.generator.generateAsked asked workers).1 }
  | .test s => (b.take s).1

def meetAll (b : Bench) (demands : List Demand) : Bench := demands.foldl meet b

theorem shifts_generateEach (b : Bench) (names : List String) :
    Shifts b { b with generator := (b.generator.generateEach names).1 } := by
  induction names generalizing b with
  | nil => exact .refl
  | cons name rest ih =>
    have first : Shift b { b with generator := (b.generator.generate name).1 } := .generate name
    unfold Generator.generateEach
    split
    next refused =>
      rw [refused] at first
      exact .single first
    next made =>
      rw [made] at first
      exact .head first (ih _)

theorem shifts_generateAsked (b : Bench) (asked workers : Value) :
    Shifts b { b with generator := (b.generator.generateAsked asked workers).1 } := by
  unfold Generator.generateAsked Generator.generateNamed
  split
  next => exact .refl
  next names _ =>
    have each := b.shifts_generateEach ((names.map Value.text?).takeWhile (·.isSome) |>.filterMap id)
    dsimp only
    split
    next refused =>
      rw [refused] at each
      exact each
    next made =>
      rw [made] at each
      exact each

theorem shifts_meet (b : Bench) (demand : Demand) : Shifts b (b.meet demand) := by
  cases demand with
  | generate name => exact .single (.generate name)
  | generateAll asked workers => exact b.shifts_generateAsked asked workers
  | test s => exact shifts_take b s

theorem shifts_meetAll (b : Bench) (demands : List Demand) : Shifts b (b.meetAll demands) := by
  induction demands generalizing b with
  | nil => exact .refl
  | cons demand rest ih => exact (shifts_meet b demand).trans (ih (b.meet demand))

theorem Shifts.changes (shifts : Shifts b c) : Generator.Changes b.generator c.generator := by
  induction shifts with
  | refl => exact .refl
  | tail _ shift ih =>
    rcases shift.generator with same | ⟨name, generated⟩
    · rwa [same]
    · rw [generated]
      exact ih.trans (Generator.changes_generate _ name)

theorem changes_meetAll (b : Bench) (demands : List Demand) :
    Generator.Changes b.generator (b.meetAll demands).generator :=
  (shifts_meetAll b demands).changes

end Bench

namespace SymbolTable

/-- A table that is merged and whose uses are all classified has distinct reports, of undeclared
bases only those that merging made, and keeps them as they are under all that tests demand. -/
theorem table_meetAll {ds : Diagnostics} {units : List (UnitRecord String)} {t : SymbolTable}
    (distinct : Distinct ds) (merged : mergeInto ds units = (t, none))
    (fit : t.hasUnfitUse = false) :
    Distinct t.classify.1.diagnostics ∧
      (∀ r ∈ t.classify.1.diagnostics, SaysUndeclared r → r ∈ t.diagnostics) ∧
      ∀ (b : Bench) (demands : List Demand), b.generator.table = t.classify.1 →
        (b.meetAll demands).generator.table = t.classify.1 := by
  refine ⟨distinct_classify merged distinct,
    fun r member undeclared => mem_of_saysUndeclared merged fit member undeclared, ?_⟩
  intro b demands table
  have known : b.generator.table.IsReported := by
    rw [table]
    exact isReported_classify fit
  rw [(b.changes_meetAll demands).table known, table]

/-- An interface with a base that is nowhere and one that is only announced, and two classes that
embed each other. -/
def dangling : List (UnitRecord String) :=
  let declaring (name : String) (kind : DeclKind) (bases : List String) (isFull : Bool)
      (fields : List DataMember) : Declaration String :=
    { name, kind, bases, methods := [], fields, isFull, unit := .null }
  let embedding (name other : String) : Declaration String :=
    declaring name .ordinary [] true [⟨.text "part", .named other false, .text name⟩]
  [{ name := .text "first"
     declarations := [declaring "F" .interface [] false [],
       declaring "A" .interface ["Gone", "F", "Gone"] true [],
       declaring "B" .interface ["A"] true [], embedding "X" "Y", embedding "Y" "X"]
     bodies := [], header := .null }]

theorem table_meetAll_dangling :
    let t := (merge dangling).1
    let b := Bench.empty ⟨t.classify.1, none, .text "Stub", []⟩
    let demands : List Demand :=
      [.generate "B", .test (.create (.text "A")), .generateAll .null (.int 1)]
    t.classify.2 = .error (.cycle ["Y", "X"]) ∧
      t.classify.1.diagnostics = [unresolvedBase "A" "Gone",
        .note .unresolvedReference "A" "base 'F' is only forward declared"] ∧
        Distinct t.classify.1.diagnostics ∧
          (b.meetAll demands).generator.memo.keys = ["B", "A"] ∧
            (b.meetAll demands).generator.table = t.classify.1 := by
  intro t b demands
  have merged : mergeInto [] dangling = (t, none) := by decide +kernel
  have none : Distinct [] := List.nodup_nil
  obtain ⟨distinct, _, kept⟩ :=
    table_meetAll none merged (by decide +kernel)
  exact ⟨by decide +kernel, by decide +kernel, distinct, by decide +kernel, kept b demands rfl⟩

end SymbolTable
end Understudy
