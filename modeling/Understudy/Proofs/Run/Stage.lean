import Understudy.Proofs.Files.Tree
import Understudy.Run.Basic

/-! What the stages of a run do to files, and which of them can end with a verdict on the units.

The stages that judge come before those that write. So once a file may have been written, all that
can still fail are settings and files.
-/

set_option autoImplicit false

namespace Understudy.Stage

open Understudy.Cpp FileTree

/-- What may become of a tree by the time of a fault, or in the end where there is none. -/
abbrev Effect := FileTree → Option RunFault → FileTree → Prop

namespace Effect

def keeping : Effect := fun before _ after => after = before

def sparing : Effect := fun before _ after => SameFiles before after

/-- A fault is no verdict. -/
def excusing : Effect := fun _ fault _ => ∀ f ∈ fault, f.verdict? = none

/-- With a verdict no file is touched. -/
def atomic : Effect := fun before fault after =>
  ∀ f ∈ fault, f.verdict? ≠ none → SameFiles before after

/-- Whether doing nothing has an effect, and doing one thing after the other. -/
structure Composes (effect : Effect) : Prop where
  refl (tree : FileTree) : effect tree none tree
  trans {first second third : FileTree} {fault : Option RunFault} :
    effect first none second → effect second fault third → effect first fault third

theorem composes_keeping : Composes keeping :=
  ⟨fun _ => rfl, fun first second => second.trans first⟩

theorem composes_excusing : Composes excusing := ⟨by simp [excusing], fun _ second => second⟩

-- `atomic` does not compose: what succeeds may have written, and a verdict after that is too late.
-- Hence the two rules for it below, each with one side that is better than atomic.

end Effect

open Effect

variable {α β : Type} {effect : Effect}

def faultOf : Except RunFault α → Option RunFault
  | .ok _ => none
  | .error fault => some fault

def Does (effect : Effect) (m : Stage α) : Prop :=
  ∀ ⦃start final : Workspace⦄ ⦃result : Except RunFault α⦄,
    m.run.run start = (result, final) → effect start.tree (faultOf result) final.tree

theorem Does.mono {weaker : Effect} {m : Stage α} (does : Does effect m)
    (implies : ∀ {before fault after}, effect before fault after → weaker before fault after) :
    Does weaker m :=
  fun _ _ _ ran => implies (does ran)

theorem Does.bind {early late : Effect} {first : Stage α} {next : α → Stage β}
    (begins : Does early first) (goesOn : ∀ a, Does late (next a))
    (failed : ∀ {before fault after}, early before (some fault) after →
      effect before (some fault) after)
    (both : ∀ {before between fault after}, early before none between →
      late between fault after → effect before fault after) :
    Does effect (first >>= next) := by
  rintro start final (fault | b) ran
  · obtain stuck | ⟨a, between, begun, ran⟩ := run_bind_eq_error.mp ran
    · exact failed (begins stuck)
    · exact both (begins begun) (goesOn a ran)
  · obtain ⟨a, between, begun, ran⟩ := run_bind_eq_ok.mp ran
    exact both (begins begun) (goesOn a ran)

/-! ### Stages that do not write -/

namespace Effect.Composes

variable (composes : effect.Composes)

include composes

theorem pure (a : α) : Does effect (Pure.pure a : Stage α) := by
  rintro start final result ⟨⟩
  exact composes.refl _

theorem get : Does effect (MonadState.get : Stage Workspace) := by
  rintro start final result ⟨⟩
  exact composes.refl _

theorem log (level : LogLevel) (message : String) : Does effect (log level message) := by
  rintro start final result ⟨⟩
  exact composes.refl _

theorem bind {first : Stage α} {next : α → Stage β} (begins : Does effect first)
    (goesOn : ∀ a, Does effect (next a)) : Does effect (first >>= next) :=
  begins.bind goesOn id composes.trans

theorem map {f : α → β} {m : Stage α} (does : Does effect m) : Does effect (f <$> m) := by
  rw [map_eq_pure_bind]
  exact composes.bind does fun _ => composes.pure _

theorem forM {xs : List α} {body : α → Stage PUnit} (each : ∀ x, Does effect (body x)) :
    Does effect (xs.forM body) := by
  induction xs with
  | nil => exact composes.pure _
  | cons x rest ih => exact composes.bind (each x) fun _ => ih

theorem mapM {xs : List α} {f : α → Stage β} (each : ∀ x, Does effect (f x)) :
    Does effect (xs.mapM f) := by
  induction xs with
  | nil => exact composes.pure _
  | cons x rest ih =>
    rw [List.mapM_cons]
    exact composes.bind (each x) fun _ => composes.bind ih fun _ => composes.pure _

theorem warn (before after : Diagnostics) : Does effect (warn before after) :=
  composes.forM fun _ => composes.log _ _

theorem attempt {ε : Type} {fault : ε → RunFault}
    (may : ∀ e tree, effect tree (some (fault e)) tree) (outcome : Except ε α) :
    Does effect (attempt fault outcome) := by
  cases outcome with
  | error e =>
    rintro start final result ⟨⟩
    exact may e _
  | ok a => exact composes.pure a

end Effect.Composes

theorem does_throw {fault : RunFault} (may : ∀ tree, effect tree (some fault) tree) :
    Does effect (throw fault : Stage α) := by
  rintro start final result ⟨⟩
  exact may _

theorem of_branch {P : Stage β → Prop} {choice : Prop} [Decidable choice] {first second : Stage α}
    {next : α → Stage β} (holds : P ((if choice then first else second) >>= next)) :
    P (if choice then first >>= next else second >>= next) := by
  split
  next chosen => rwa [if_pos chosen] at holds
  next otherwise => rwa [if_neg otherwise] at holds

/-! ### The stages of a run -/

theorem keeps_attempt {ε : Type} (fault : ε → RunFault) (outcome : Except ε α) :
    Does keeping (attempt fault outcome) :=
  composes_keeping.attempt (fun _ _ => rfl) outcome

theorem Does.spares {m : Stage α} (keeps : Does keeping m) : Does sparing m :=
  keeps.mono fun same => same ▸ .refl _

theorem keeps_viewsOf (asked : Value) : Does keeping (viewsOf asked) := by
  unfold viewsOf
  split
  · split
    · exact composes_keeping.pure _
    · split <;> exact does_throw fun _ => rfl
  · exact does_throw fun _ => rfl

theorem keeps_merge (units : List (UnitRecord Value)) : Does keeping (merge units) := by
  have told {message : String} {t : SymbolTable} :
      Does keeping (do log .debug message; return t : Stage SymbolTable) :=
    composes_keeping.bind (composes_keeping.log _ _) fun _ => composes_keeping.pure _
  unfold merge
  generalize SymbolTable.mergeDocuments units = merged
  obtain ⟨t, fault⟩ := merged
  refine composes_keeping.bind (composes_keeping.warn _ _) fun _ => ?_
  cases fault with
  | none => exact told
  | some fault => exact composes_keeping.bind (does_throw fun _ => rfl) fun _ => told

theorem keeps_classify (t : SymbolTable) : Does keeping (classify t) :=
  composes_keeping.bind (composes_keeping.warn _ _) fun _ =>
    composes_keeping.bind (keeps_attempt _ _) fun _ =>
      composes_keeping.bind (composes_keeping.log _ _) fun _ => composes_keeping.pure _

theorem keeps_headerPath (settings : Entries) (output : Option Path) :
    Does keeping (headerPath settings output) := by
  cases output with
  | none => exact composes_keeping.pure _
  | some directory =>
    exact composes_keeping.bind (keeps_attempt _ _) fun _ => composes_keeping.pure _

theorem keeps_load (path : Path) : Does keeping (load path) :=
  composes_keeping.bind composes_keeping.get fun _ =>
    composes_keeping.bind (keeps_attempt _ _) fun _ =>
      composes_keeping.bind (composes_keeping.log _ _) fun _ => composes_keeping.pure _

theorem run_change {f : FileTree → Except FileFault FileTree} {next : Stage α} {start : Workspace} :
    (do
      let tree ← attempt .file (f (← get).tree)
      modify fun w => { w with tree }
      next : Stage α).run.run start =
      match f start.tree with
      | .ok tree => next.run.run { start with tree }
      | .error fault => (.error (.file fault), start) := by
  -- reading the tree is computed away, so that one case remains for each result of the change
  change StateT.run (ExceptT.run (attempt .file (f start.tree) >>= _)) start = _
  cases f start.tree <;> rfl

theorem spares_makeOutput (output : Value) : Does sparing (makeOutput output) := by
  unfold makeOutput
  split
  · rintro start final result ⟨⟩
    exact .refl _
  · refine (keeps_attempt _ _).spares.bind (fun directory => ?_) id SameFiles.trans
    intro start final result ran
    rw [run_change (f := (·.makeDirectories directory))] at ran
    split at ran
    next made =>
      cases ran
      exact sameFiles_of_makeDirectories made
    next =>
      cases ran
      exact .refl _

theorem excuses_attempt {ε : Type} {fault : ε → RunFault}
    (plain : ∀ e, (fault e).verdict? = none) (outcome : Except ε α) :
    Does excusing (attempt fault outcome) := by
  refine composes_excusing.attempt (fun e _ f same => ?_) outcome
  cases same
  exact plain e

theorem excuses_modify (f : Workspace → Workspace) : Does excusing (modify f : Stage PUnit) := by
  rintro start final result ⟨⟩ f ⟨⟩

theorem excuses_writeText (path : Path) (text : String) : Does excusing (writeText path text) :=
  composes_excusing.bind composes_excusing.get fun _ =>
    composes_excusing.bind (excuses_attempt (fun _ => rfl) _) fun _ => excuses_modify _

theorem excuses_callGraph (t : SymbolTable) (c : Classification) (settings : Entries)
    (output : Option Path) : Does excusing (callGraph t c settings output) := by
  unfold callGraph
  refine composes_excusing.bind (excuses_attempt (fun _ => rfl) _) fun _ =>
    composes_excusing.bind (excuses_attempt (fun _ => rfl) _) fun _ =>
    composes_excusing.bind (composes_excusing.log _ _) fun _ =>
    composes_excusing.bind (excuses_attempt (fun _ => rfl) _) fun g =>
    composes_excusing.bind (composes_excusing.log _ _) fun _ =>
    composes_excusing.bind composes_excusing.get fun w => ?_
  generalize g.emit w.tree _ _ = emitted
  obtain ⟨written, fault⟩ := emitted
  refine composes_excusing.bind (excuses_modify _) fun _ =>
    composes_excusing.bind (composes_excusing.forM fun _ => composes_excusing.log _ _) fun _ => ?_
  cases fault with
  | none => exact composes_excusing.pure _
  | some fault =>
    -- a format may have been written by now, so the fault of the next one must not judge
    refine composes_excusing.bind (does_throw ?_) fun _ => composes_excusing.pure _
    rintro tree f ⟨⟩
    rfl

/-! ### Atomic stages -/

theorem Does.before_atomic {first : Stage α} {next : α → Stage β} (spares : Does sparing first)
    (goesOn : ∀ a, Does atomic (next a)) : Does atomic (first >>= next) :=
  spares.bind goesOn (fun same _ _ _ => same) fun same rest f isFault verdict =>
    same.trans (rest f isFault verdict)

theorem Does.atomic_before {first : Stage α} {next : α → Stage β} (begins : Does atomic first)
    (excuses : ∀ a, Does excusing (next a)) : Does atomic (first >>= next) :=
  begins.bind excuses id fun _ excused f isFault verdict => absurd (excused f isFault) verdict

theorem Does.excused {m : Stage α} (excuses : Does excusing m) : Does atomic m :=
  excuses.mono fun excused f isFault verdict => absurd (excused f isFault) verdict

theorem atomic_stubs (t : SymbolTable) (c : Classification) (interfaces : Value)
    (settings : Entries) (output : Option Path) :
    Does atomic (stubs t c interfaces settings output) := by
  unfold stubs
  refine (keeps_headerPath _ _).spares.before_atomic fun file => ?_
  -- how the doubles are generated does not matter, only that it comes before the writing
  generalize t.stubView _ _ _ = generated
  obtain ⟨g, result⟩ := generated
  refine (composes_keeping.warn _ _).spares.before_atomic fun _ =>
    (composes_keeping.forM fun _ => composes_keeping.log _ _).spares.before_atomic fun _ =>
    (keeps_attempt _ _).spares.before_atomic fun view => Does.excused ?_
  refine composes_excusing.bind (composes_excusing.log _ _) fun _ => ?_
  cases file with
  | none => exact composes_excusing.pure _
  | some file =>
    exact composes_excusing.bind (excuses_writeText _ _) fun _ =>
      composes_excusing.bind (composes_excusing.log _ _) fun _ => composes_excusing.pure _

theorem atomic_run (units : List (UnitRecord Value)) (request : RunRequest) :
    Does atomic (run units request) := by
  unfold run
  refine (keeps_viewsOf _).spares.before_atomic fun views =>
    (keeps_attempt _ _).spares.before_atomic fun settings =>
    (keeps_merge _).spares.before_atomic fun merged =>
    (keeps_classify _).spares.before_atomic fun (t, c) =>
    (spares_makeOutput _).before_atomic fun output => ?_
  -- doubles may be refused and written in one stage; what comes after them judges nothing
  have stubbed : Does atomic (if views.contains .stub then
      some <$> stubs t c request.interfaces settings output else pure none) := by
    split
    · rw [map_eq_pure_bind]
      exact (atomic_stubs _ _ _ _ _).atomic_before fun _ => composes_excusing.pure _
    · exact (composes_excusing.pure _).excused
  have graphed : Does excusing (if views.contains .callGraph then
      some <$> callGraph t c settings output else pure none) := by
    split
    · exact composes_excusing.map (excuses_callGraph _ _ _ _)
    · exact composes_excusing.pure _
  exact of_branch (P := Does atomic) <| stubbed.atomic_before fun _ =>
    of_branch (P := Does excusing) <| composes_excusing.bind graphed fun _ =>
      composes_excusing.bind (composes_excusing.log _ _) fun _ => composes_excusing.pure _

theorem atomic_runFiles (paths : List Path) (request : RunRequest) :
    Does atomic (runFiles paths request) :=
  (keeps_attempt _ _).spares.before_atomic fun _ =>
    (keeps_attempt _ _).spares.before_atomic fun _ =>
      (keeps_attempt _ _).spares.before_atomic fun _ =>
        (composes_keeping.mapM keeps_load).spares.before_atomic fun units =>
          atomic_run units request

end Understudy.Stage
