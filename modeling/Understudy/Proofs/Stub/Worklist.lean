import Mathlib.Logic.Relation
import Understudy.Proofs.Stub.Build

/-! The loop that keeps doubles of a worklist of interfaces and of those they hand out.

A name that has a double already is passed over, and what that double hands out is not looked at
again. This is sound since between two requests no double hands out an interface without one;
while the loop runs, whatever lacks a double is on the worklist.
-/

set_option autoImplicit false

open Relation

namespace Understudy

open Understudy.Cpp

/-- The interfaces that need doubles: those that names stand for, and with an interface all that
its double hands out. -/
inductive SymbolTable.Needed (t : SymbolTable) (lead : Value) (names : List String) :
    String → Prop where
  | asked {name : String} {d : Declaration String} :
      name ∈ names → t.interface name = .ok d → Needed t lead names d.name
  | nested {name other : String} {d : Declaration String} {stub : Stub} :
      Needed t lead names name → t.get? name = some d → t.buildStub lead d = .ok stub →
        other ∈ stub.nested → Needed t lead names other

namespace SymbolTable

variable {t : SymbolTable}

theorem Needed.mono {lead : Value} {names more : List String} (sub : names ⊆ more) {name : String}
    (needed : t.Needed lead names name) : t.Needed lead more name := by
  induction needed with
  | asked member stands => exact .asked (sub member) stands
  | nested _ found built handed ih => exact .nested ih found built handed

theorem interface_eq_ok {name : String} {d : Declaration String} :
    t.interface name = .ok d ↔
      t.resolve? name "" = some d ∧ d.isInterface = true ∧ d.isFull = true := by
  unfold interface
  cases t.resolve? name "" with
  | none => simp
  | some b =>
    cases proper : b.isInterface <;> cases full : b.isFull <;> simp [proper, full]
    all_goals
      rintro rfl
      simp [proper, full]

theorem isFullInterface_of_interface {name : String} {d : Declaration String}
    (stands : t.interface name = .ok d) :
    d ∈ t.declarations ∧ d.isInterface = true ∧ d.isFull = true := by
  obtain ⟨found, proper, full⟩ := interface_eq_ok.mp stands
  exact ⟨mem_of_resolve? found, proper, full⟩

theorem Needed.isFullInterface (arena : t.IsArena) (spelled : t.IsSpelled) {lead : String}
    {names : List String} {name : String} (needed : t.Needed (.text lead) names name) :
    t.IsFullInterface name := by
  cases needed with
  | asked _ stands =>
    obtain ⟨declared, proper, full⟩ := isFullInterface_of_interface stands
    exact ⟨_, declared, rfl, proper, full⟩
  | nested _ found built handed =>
    have double := isDouble_of_buildStub arena spelled (mem_of_get? found) built
    exact double.nested name handed

end SymbolTable

namespace Generator

/-- One turn of the loop. A name that has a double is passed over. Any other one gets its double,
and what the double hands out goes to the end of the worklist. -/
inductive Turn : Generator × List String → Generator × List String → Prop where
  | pass {g : Generator} {name : String} {rest : List String} :
      g.memo.has name = true → Turn (g, name :: rest) (g, rest)
  | keep {g : Generator} {name : String} {rest : List String} {d : Declaration String}
      {stub : Stub} :
      g.memo.has name = false → g.table.get? name = some d →
        g.table.buildStub g.lead d = .ok stub →
          Turn (g, name :: rest)
            ({ g.reportFlat d with memo := g.memo.set d.name stub }, rest ++ stub.nested)

/-- What never changes of a generator: its settings, and the doubles it keeps. -/
structure Grown (g after : Generator) : Prop where
  lead : after.lead = g.lead
  classification : after.classification = g.classification
  kept : ∀ name stub, g.memo.get? name = some stub → after.memo.get? name = some stub

theorem Grown.refl (g : Generator) : g.Grown g := ⟨rfl, rfl, fun _ _ => id⟩

theorem Grown.trans {g middle after : Generator} (first : g.Grown middle)
    (second : middle.Grown after) : g.Grown after :=
  ⟨second.lead.trans first.lead, second.classification.trans first.classification,
    fun name stub old => second.kept name stub (first.kept name stub old)⟩

/-- A generator whose loop has a worklist left, after the requests for some names. -/
structure Owes (t : SymbolTable) (lead : String) (names : List String) (g : Generator)
    (worklist : List String) : Prop where
  table : ∃ ds, g.table = { t with diagnostics := ds }
  led : g.lead = .text lead
  distinct : g.memo.keys.Nodup
  entries : ∀ name stub, g.memo.get? name = some stub →
    ∃ d, t.get? name = some d ∧ t.buildStub (.text lead) d = .ok stub
  needed : ∀ name, g.memo.has name = true ∨ name ∈ worklist → t.Needed (.text lead) names name
  asked : ∀ name ∈ names, ∀ d, t.interface name = .ok d →
    g.memo.has d.name = true ∨ d.name ∈ worklist
  nested : ∀ name stub, g.memo.get? name = some stub → ∀ other ∈ stub.nested,
    g.memo.has other = true ∨ other ∈ worklist

variable {t : SymbolTable} {lead : String} {names worklist : List String} {g : Generator}

theorem Owes.has_iff_needed (owes : Owes t lead names g []) {name : String} :
    g.memo.has name = true ↔ t.Needed (.text lead) names name := by
  constructor
  · exact fun known => owes.needed name (.inl known)
  · intro needed
    induction needed with
    | asked member stands => exact (owes.asked _ member _ stands).resolve_right (by simp)
    | nested _ found built handed ih =>
      -- The double that hands it out is kept, and an entry is what is built.
      obtain ⟨stub, known⟩ := Option.isSome_iff_exists.mp ih
      obtain ⟨d, declared, made⟩ := owes.entries _ _ known
      rw [found] at declared
      cases declared
      rw [built] at made
      cases made
      exact (owes.nested _ _ known _ handed).resolve_right (by simp)

theorem Owes.isArena (owes : Owes t lead names g worklist) (arena : t.IsArena) :
    g.table.IsArena := by
  obtain ⟨ds, table⟩ := owes.table
  rw [table]
  exact ⟨arena.ids, arena.sound⟩

/-! ## One turn -/

theorem Owes.pass {name : String} (owes : Owes t lead names g (name :: worklist))
    (known : g.memo.has name = true) : Owes t lead names g worklist := by
  have settled {other : String} (due : g.memo.has other = true ∨ other ∈ name :: worklist) :
      g.memo.has other = true ∨ other ∈ worklist := by
    rcases due with old | due
    · exact .inl old
    · rcases List.mem_cons.mp due with rfl | due
      · exact .inl known
      · exact .inr due
  refine ⟨owes.table, owes.led, owes.distinct, owes.entries, ?_,
    fun n member d stands => settled (owes.asked n member d stands),
    fun n stub old other handed => settled (owes.nested n stub old other handed)⟩
  rintro n (old | due)
  · exact owes.needed n (.inl old)
  · exact owes.needed n (.inr (List.mem_cons_of_mem _ due))

theorem Owes.keep (arena : t.IsArena) {name : String}
    (owes : Owes t lead names g (name :: worklist)) {d : Declaration String} {stub : Stub}
    (found : g.table.get? name = some d) (built : g.table.buildStub g.lead d = .ok stub) :
    Owes t lead names { g.reportFlat d with memo := g.memo.set d.name stub }
      (worklist ++ stub.nested) := by
  obtain ⟨ds, table⟩ := owes.table
  rw [table] at found
  rw [table, owes.led, SymbolTable.buildStub_diagnose] at built
  change t.get? name = some d at found
  obtain ⟨_, rfl⟩ := arena.get?_eq_some.mp found
  -- The name leaves the worklist, but not without a double.
  have settled {other : String} (due : g.memo.has other = true ∨ other ∈ d.name :: worklist) :
      (g.memo.set d.name stub).has other = true ∨ other ∈ worklist ++ stub.nested := by
    rcases due with old | due
    · exact .inl (Assoc.has_set.mpr (.inr old))
    · rcases List.mem_cons.mp due with rfl | due
      · exact .inl (Assoc.has_set.mpr (.inl rfl))
      · exact .inr (List.mem_append_left _ due)
  have own := owes.needed d.name (.inr List.mem_cons_self)
  have reported : ∃ ds, (g.reportFlat d).table = { t with diagnostics := ds } := by
    unfold reportFlat
    rw [table]
    exact ⟨_, rfl⟩
  refine ⟨reported, owes.led, Assoc.nodup_keys_set owes.distinct, ?made, ?needed,
    fun n member b stands => settled (owes.asked n member b stands), ?nested⟩
  case made =>
    intro n other known
    rcases Assoc.get?_set_cases known with ⟨rfl, rfl⟩ | old
    · exact ⟨d, found, built⟩
    · exact owes.entries n other old
  case needed =>
    rintro n (known | due)
    · rcases Assoc.has_set.mp known with rfl | old
      · exact own
      · exact owes.needed n (.inl old)
    · rcases List.mem_append.mp due with due | handed
      · exact owes.needed n (.inr (List.mem_cons_of_mem _ due))
      · exact .nested own found built handed
  case nested =>
    intro n other known inner handed
    rcases Assoc.get?_set_cases known with ⟨rfl, rfl⟩ | old
    · exact .inr (List.mem_append_right _ handed)
    · exact settled (owes.nested n other old inner handed)

theorem Turn.owes (arena : t.IsArena) {state next : Generator × List String}
    (turn : Turn state next) (owes : Owes t lead names state.1 state.2) :
    Owes t lead names next.1 next.2 := by
  cases turn with
  | pass known => exact owes.pass known
  | keep _ found built => exact owes.keep arena found built

theorem Turn.grown {state next : Generator × List String} (arena : state.1.table.IsArena)
    (turn : Turn state next) : state.1.Grown next.1 := by
  cases turn with
  | pass => exact .refl _
  | @keep g name rest d stub new found built =>
    refine ⟨rfl, rfl, ?_⟩
    intro n other old
    obtain ⟨_, rfl⟩ := arena.get?_eq_some.mp found
    have apart : n ≠ d.name := by
      rintro rfl
      simp [Assoc.has, old] at new
    exact (Assoc.get?_set_ne _ _ apart).trans old

/-! ## The whole loop -/

theorem unseen_set_lt {memo : Assoc Stub} {d : Declaration String}
    (found : t.get? d.name = some d) (new : memo.has d.name = false) (stub : Stub) :
    t.unseen (memo.set d.name stub).keys < t.unseen memo.keys := by
  apply SymbolTable.unseen_lt_of_new _ (SymbolTable.mem_of_get? found)
  · rw [Assoc.mem_keys, new]
    simp
  · exact Assoc.mem_keys.mpr (Assoc.has_set.mpr (.inl rfl))
  · intro n old
    exact Assoc.mem_keys.mpr (Assoc.has_set.mpr (.inr (Assoc.mem_keys.mp old)))

/-- The loop comes to an end from wherever it starts: a turn that keeps a double leaves fewer
declarations without one, and any other turn makes the worklist shorter. -/
theorem Turn.terminates (arena : g.table.IsArena) (worklist : List String) :
    Acc (fun next state => Turn state next) (g, worklist) := by
  -- Outer induction over the names without doubles, inner one over the worklist.
  induction due : g.table.unseen g.memo.keys using Nat.strongRecOn generalizing g worklist with
  | ind count fewer =>
    induction worklist with
    | nil =>
      constructor
      rintro _ turn
      cases turn
    | cons name rest shorter =>
      constructor
      rintro _ turn
      cases turn with
      | pass => exact shorter
      | @keep _ _ _ d stub new found =>
        obtain ⟨_, rfl⟩ := arena.get?_eq_some.mp found
        have less := unseen_set_lt found new stub
        rw [due] at less
        refine fewer _ less ?_ _ rfl
        exact ⟨arena.ids, arena.sound⟩

theorem passes (g : Generator) (worklist : List String) :
    ReflTransGen Turn (g, worklist) (g, worklist.dropWhile fun name => g.memo.has name) := by
  induction worklist with
  | nil => exact .refl
  | cons name rest ih =>
    rw [List.dropWhile_cons]
    split
    next known => exact ih.head (.pass known)
    next => exact .refl

theorem owes_of_turns (arena : t.IsArena) {state last : Generator × List String}
    (run : ReflTransGen Turn state last) (owes : Owes t lead names state.1 state.2) :
    Owes t lead names last.1 last.2 ∧ state.1.Grown last.1 := by
  induction run with
  | refl => exact ⟨owes, .refl _⟩
  | tail _ turn ih =>
    obtain ⟨owes, grown⟩ := ih
    exact ⟨turn.owes arena owes, grown.trans (turn.grown (owes.isArena arena))⟩

theorem turns_of_work (arena : t.IsArena) (spelled : t.IsSpelled) {fuel : Nat}
    (owes : Owes t lead names g worklist) (enough : t.unseen g.memo.keys < fuel) :
    ∃ after, work fuel g worklist = (after, none) ∧
      ReflTransGen Turn (g, worklist) (after, []) := by
  induction fuel generalizing g worklist with
  | zero => omega
  | succ fuel ih =>
    unfold work
    have skipped := passes g worklist
    split
    next done =>
      rw [done] at skipped
      exact ⟨g, rfl, skipped⟩
    next name rest left =>
      rw [left] at skipped
      -- What stands first once known names are dropped has no double yet.
      have new : g.memo.has name = false := by
        have first := List.head?_dropWhile_not (fun name => g.memo.has name) worklist
        simpa [left] using first
      have owes : Owes t lead names g (name :: rest) := (owes_of_turns arena skipped owes).1
      obtain ⟨d, declared, rfl, _⟩ :=
        (owes.needed name (.inr List.mem_cons_self)).isFullInterface arena spelled
      have known : t.get? d.name = some d := arena.get?_eq_some.mpr ⟨declared, rfl⟩
      obtain ⟨ds, table⟩ := owes.table
      have found : g.table.get? d.name = some d := by
        rw [table]
        exact known
      obtain ⟨stub, built, _⟩ := SymbolTable.exists_buildStub arena spelled lead declared
      have built : g.table.buildStub g.lead d = .ok stub := by
        rw [table, owes.led, SymbolTable.buildStub_diagnose]
        exact built
      have less := unseen_set_lt known new stub
      obtain ⟨after, worked, run⟩ := ih (owes.keep arena found built)
        (show t.unseen (g.memo.set d.name stub).keys < fuel by omega)
      simp only [found, built]
      exact ⟨after, worked, skipped.trans (run.head (.keep new found built))⟩

end Generator
end Understudy
