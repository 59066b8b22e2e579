import Mathlib.Data.List.TakeWhile
import Understudy.Ownership.Classification
import Understudy.Proofs.Stub.Change
import Understudy.Proofs.Symbols.Merge

/-! What merging, classification and generation report of the bases in a table.

Each of them judges bases on its own and words what it finds on its own. Classification looks at all
uses in all declarations, so whatever a walk over bases cannot follow has been reported by then, word
for word; and of bases that are declared nowhere it says nothing that merging has not said.
-/

set_option autoImplicit false

open Relation

namespace Understudy

open Understudy.Cpp

namespace Diagnostics

variable {ds new : List Diagnostic} {e : Diagnostic}

theorem reportAll_of_subset (known : new ⊆ ds) : reportAll ds new = ds := by
  induction new with
  | nil => rfl
  | cons d rest ih =>
    obtain ⟨here, others⟩ := List.cons_subset.mp known
    change reportAll (report ds d) rest = ds
    rw [report_of_mem here]
    exact ih others

theorem mem_reportAll_of_text
    (texts : ∀ d ∈ new, ∃ kind subject message, d = .note kind subject message) :
    e ∈ reportAll ds new ↔ e ∈ ds ∨ e ∈ new := by
  induction new generalizing ds with
  | nil => simp [reportAll]
  | cons d rest ih =>
    obtain ⟨⟨kind, subject, message, rfl⟩, others⟩ := List.forall_mem_cons.mp texts
    change e ∈ reportAll (report ds _) rest ↔ _
    rw [ih others, mem_report_of_text ⟨rfl, rfl⟩, List.mem_cons, or_assoc]

end Diagnostics

namespace SymbolTable

variable {t after : SymbolTable}

theorem classify_fst (t : SymbolTable) : t.classify.1 = t.reportUses := by
  unfold classify
  split <;> rfl

/-! ## Reports come once -/

theorem Step.diagnostics (step : Step t after) :
    after.diagnostics = t.diagnostics ∨ ∃ d, after.diagnostics = t.diagnostics.report d := by
  cases step with
  | @add _ d stored added =>
    unfold SymbolTable.add at added
    split at added
    next => cases added
    next =>
      split at added
      next =>
        cases added
        exact .inl rfl
      next =>
        split at added
        next =>
          -- of what is there already, only a second definition that differs is reported
          unfold revisit at added
          split at added <;> cases added
          · exact .inl rfl
          · exact .inl rfl
          · exact .inr ⟨_, rfl⟩
        next =>
          cases added
          exact .inl rfl
  | addBody b =>
    have adds := t.addsBody b
    generalize (t.addBody b).1 = after at adds ⊢
    cases adds with
    | appends | passes => exact .inl rfl
    | differs => exact .inr ⟨_, rfl⟩
  | noteHeader d header =>
    obtain ⟨headers, same⟩ := t.exists_headers_noteHeader d header
    exact .inl (by rw [same])

/-- No report counts as another one. -/
def Distinct (ds : Diagnostics) : Prop := (ds.map Diagnostic.canon).Nodup

theorem Steps.distinct (steps : Steps t after) (distinct : Distinct t.diagnostics) :
    Distinct after.diagnostics := by
  induction steps with
  | refl => exact distinct
  | tail _ step ih =>
    rcases step.diagnostics with same | ⟨d, reported⟩
    · rwa [same]
    · rw [reported]
      exact Diagnostics.nodup_report ih d

def mergeInto (ds : Diagnostics) (units : List (UnitRecord String)) :
    SymbolTable × Option Malformed :=
  match addUnits { empty with diagnostics := ds } units with
  | (t, some fault) => (t, some fault)
  | (t, none) => (t.checkBases, none)

variable {ds : Diagnostics} {units : List (UnitRecord String)}

theorem exists_checkBases (merged : mergeInto ds units = (t, none)) :
    ∃ between, Steps { empty with diagnostics := ds } between ∧ t = between.checkBases := by
  have steps := steps_addUnits { empty with diagnostics := ds } units
  unfold mergeInto at merged
  split at merged
  next => cases merged
  next added =>
    rw [added] at steps
    cases merged
    exact ⟨_, steps, rfl⟩

theorem distinct_classify (merged : mergeInto ds units = (t, none)) (distinct : Distinct ds) :
    Distinct t.classify.1.diagnostics := by
  obtain ⟨between, steps, rfl⟩ := exists_checkBases merged
  have filled : Distinct between.diagnostics := steps.distinct distinct
  have checked : Distinct between.checkBases.diagnostics := Diagnostics.nodup_reportAll filled _
  rw [classify_fst]
  exact Diagnostics.nodup_reportAll checked _

/-! ## Bases that are declared nowhere -/

/-- A report says that a base is not declared. -/
def SaysUndeclared (r : Diagnostic) : Prop :=
  ∃ base, r.message = .text ("base '" ++ base ++ "' is not declared in any unit")

theorem useReport?_eq_note {context : String} {usage : Usage} {r : Diagnostic}
    (reported : useReport? t context usage = some r) :
    ∃ kind subject message, r = .note kind subject message := by
  obtain ⟨message, _, rfl⟩ := Option.map_eq_some_iff.mp reported
  exact ⟨_, _, _, rfl⟩

/-- The words of other reports begin or end in another way. -/
theorem eq_base_of_saysUndeclared {context : String} {usage : Usage} {r : Diagnostic}
    (reported : useReport? t context usage = some r) (undeclared : SaysUndeclared r) :
    ∃ base, usage = .base base ∧ t.resolve? base context = none ∧ r = unresolvedBase context base := by
  obtain ⟨message, spoken, rfl⟩ := Option.map_eq_some_iff.mp reported
  obtain ⟨verdict, judged, spoken⟩ := Option.bind_eq_some_iff.mp spoken
  obtain ⟨other, same⟩ := undeclared
  have same : message = "base '" ++ other ++ "' is not declared in any unit" := Value.text.inj same
  -- all other reports on uses begin or end with another letter
  have first := congrArg (fun s : String => s.toList.head?) same
  have last := congrArg (fun s : String => s.toList.getLast?) same
  cases usage with
  | base base =>
    cases judged
    unfold classifyBase at spoken
    split at spoken
    next missing =>
      cases spoken
      exact ⟨base, rfl, missing, rfl⟩
    next d _ =>
      split at spoken
      · cases spoken
      · cases spoken
        simp [List.getLast?_cons, List.getLast?_append] at last
  | type type =>
    obtain ⟨target, _, rfl⟩ := Option.map_eq_some_iff.mp judged
    split at spoken
    next =>
      cases spoken
      simp at first
    next d _ =>
      split at spoken
      · cases spoken
      · split at spoken
        · cases spoken
        · cases spoken
          simp at first

theorem mem_uses_base {context base : String} :
    (context, Usage.base base) ∈ t.uses ↔
      ∃ d ∈ t.declarations, d.name = context ∧ base ∈ d.bases := by
  simp [uses, usesOf, methodUses, and_comm]

theorem mem_checkBases {context base : String} (used : (context, Usage.base base) ∈ t.uses) (missing : t.resolve? base context = none) :
    unresolvedBase context base ∈ t.checkBases.diagnostics := by
  obtain ⟨d, declared, rfl, named⟩ := mem_uses_base.mp used
  have listed : (d.name, base) ∈ t.namedBases :=
    List.mem_flatMap.mpr ⟨d, declared, List.mem_map_of_mem named⟩
  unfold checkBases
  dsimp only
  rw [Diagnostics.mem_reportAll_of_text]
  · refine .inr (List.mem_filterMap.mpr ⟨_, listed, ?_⟩)
    simp [baseReport?, missing]
  · intro r new
    obtain ⟨⟨context, base⟩, _, reported⟩ := List.mem_filterMap.mp new
    obtain ⟨_, same⟩ := Option.ite_none_right_eq_some.mp reported
    cases same
    exact ⟨_, _, _, rfl⟩

theorem mem_classify {r : Diagnostic} (fit : t.hasUnfitUse = false) :
    r ∈ t.classify.1.diagnostics ↔
      r ∈ t.diagnostics ∨ ∃ context usage, (context, usage) ∈ t.uses ∧
        useReport? t context usage = some r := by
  rw [classify_fst]
  unfold reportUses
  dsimp only
  rw [List.takeWhile_eq_self_iff.mpr ?whole, Diagnostics.mem_reportAll_of_text]
  case whole => simpa [hasUnfitUse] using fit
  · simp [List.mem_filterMap]
  · intro r new
    obtain ⟨⟨context, usage⟩, _, reported⟩ := List.mem_filterMap.mp new
    exact useReport?_eq_note reported

theorem mem_of_saysUndeclared (merged : mergeInto ds units = (t, none))
    (fit : t.hasUnfitUse = false) {r : Diagnostic} (member : r ∈ t.classify.1.diagnostics) (undeclared : SaysUndeclared r) :
    r ∈ t.diagnostics := by
  rcases (mem_classify fit).mp member with old | ⟨context, usage, used, reported⟩
  · exact old
  · obtain ⟨between, _, rfl⟩ := exists_checkBases merged
    obtain ⟨base, rfl, missing, rfl⟩ := eq_base_of_saysUndeclared reported undeclared
    exact mem_checkBases used missing

/-! ## What a walk cannot follow -/

/-- A walk meets a declaration, or a base that a declaration names and that leads nowhere. -/
inductive Meets (t : SymbolTable) : Encounter → Prop where
  | visited (d : Declaration String) : Meets t (.visited d)
  | undeclared {e : Declaration String} {base : String} : e ∈ t.declarations →
      base ∈ e.bases → t.resolve? base e.name = none → Meets t (.missing e.name base none)
  | forward {e b : Declaration String} {base : String} : e ∈ t.declarations →
      base ∈ e.bases → t.resolve? base e.name = some b → b.isFull = false →
        Meets t (.missing e.name base (some b.name))

theorem meets_walkFrom {fuel : Nat} {d : Declaration String} (declared : d ∈ t.declarations)
    {w : Walk} (met : ∀ m ∈ w.met, t.Meets m) : ∀ m ∈ (t.walkFrom fuel w d).met, t.Meets m := by
  induction fuel generalizing d w with
  | zero => exact met
  | succ fuel ih =>
    rw [walkFrom_succ]
    split
    next => exact met
    next =>
      have start : ∀ m ∈ (w.visit d).met, t.Meets m := by
        simpa [Walk.visit, or_imp, forall_and] using ⟨met, Meets.visited d⟩
      have aside {w : Walk} {m : Encounter} (met : ∀ m ∈ w.met, t.Meets m) (last : t.Meets m) :
          ∀ m' ∈ w.met ++ [m], t.Meets m' := by
        simpa [or_imp, forall_and] using ⟨met, last⟩
      -- One base after the other, all of them named by the declaration itself.
      suffices bases : ∀ own ⊆ d.bases, ∀ w : Walk, (∀ m ∈ w.met, t.Meets m) →
          ∀ m ∈ (own.foldl (t.enter fuel d) w).met, t.Meets m from
        bases d.bases (List.Subset.refl _) _ start
      intro own
      induction own with
      | nil => exact fun _ _ met => met
      | cons base rest next =>
        intro named w met
        obtain ⟨here, others⟩ := List.cons_subset.mp named
        refine next others _ ?_
        unfold enter
        split
        next missing => exact aside met (.undeclared declared here missing)
        next b found =>
          split
          next => exact ih (mem_of_resolve? found) met
          next forward => exact aside met (.forward declared here found (by simpa using forward))

/-- All there is to report of uses has been reported. -/
def IsReported (t : SymbolTable) : Prop :=
  ∀ context usage r, (context, usage) ∈ t.uses → useReport? t context usage = some r →
    r ∈ t.diagnostics

theorem isReported_classify (fit : t.hasUnfitUse = false) : t.classify.1.IsReported := by
  intro context usage r used reported
  -- Classification changes nothing that uses and their resolution depend on.
  rw [classify_fst] at used reported
  exact (mem_classify fit).mpr (.inr ⟨context, usage, used, reported⟩)

/-- What flattening reports, classification reports in the same words. -/
theorem IsReported.mem_of_meets (known : t.IsReported) {m : Encounter} (met : t.Meets m)
    {r : Diagnostic} (reported : m.report? = some r) : r ∈ t.diagnostics := by
  cases met with
  | visited => cases reported
  | @undeclared e base declared named missing =>
    cases reported
    apply known e.name (.base base) _ (mem_uses_base.mpr ⟨e, declared, rfl, named⟩)
    simp [useReport?, classifyUse, classifyBase, missing, unresolvedBase]
  | @forward e b base declared named found forward =>
    cases reported
    apply known e.name (.base base) _ (mem_uses_base.mpr ⟨e, declared, rfl, named⟩)
    simp [useReport?, classifyUse, classifyBase, found, forward]

theorem IsReported.flatten (known : t.IsReported) {d : Declaration String}
    (declared : d ∈ t.declarations) : (t.flatten d).reports ⊆ t.diagnostics := by
  intro r member
  obtain ⟨m, met, reported⟩ := List.mem_filterMap.mp member
  have met := List.takeWhile_subset _ met
  exact known.mem_of_meets (meets_walkFrom declared (by simp) m met) reported

end SymbolTable

namespace Generator

variable {g after : Generator}

theorem Change.table (known : g.table.IsReported) (change : Change g after) :
    after.table = g.table := by
  cases change with
  | @report d declared =>
    unfold reportFlat
    rw [Diagnostics.reportAll_of_subset (known.flatten declared)]
  | keep => rfl

theorem Changes.table (known : g.table.IsReported) (changes : Changes g after) :
    after.table = g.table := by
  induction changes with
  | refl => rfl
  | tail _ change ih =>
    rw [change.table (by rwa [ih]), ih]

end Generator
end Understudy
