import Mathlib.Data.List.Basic
import Mathlib.Logic.Relation
import Understudy.Proofs.Symbols.Arena
import Understudy.Stub.Flatten

/-! The declarations that a walk over bases visits.

A walk leaves out what it has seen, and what it has seen need not have been left yet. So a single
call does not visit all it reaches; but whatever it adds, it adds with all bases.
-/

set_option autoImplicit false

open Relation

namespace Understudy

open Understudy.Cpp

def Walk.visited (w : Walk) : List (Declaration String) := w.met.filterMap (·.declaration?)

def Walk.visit (w : Walk) (d : Declaration String) : Walk :=
  ⟨w.seen ++ [d.name], w.met ++ [.visited d]⟩

@[simp] theorem Walk.visited_visit (w : Walk) (d : Declaration String) :
    (w.visit d).visited = w.visited ++ [d] := by
  simp [visit, visited, Encounter.declaration?]

namespace SymbolTable

def HasBase (t : SymbolTable) (d b : Declaration String) : Prop :=
  b.isFull = true ∧ ∃ base ∈ d.bases, t.resolve? base d.name = some b

/-- A declaration has another one among its bases and their bases, or is the same. -/
def Inherits (t : SymbolTable) : Declaration String → Declaration String → Prop :=
  ReflTransGen t.HasBase

def enter (t : SymbolTable) (fuel : Nat) (d : Declaration String) (w : Walk) (base : String) :
    Walk :=
  match t.resolve? base d.name with
  | none => { w with met := w.met ++ [.missing d.name base none] }
  | some b =>
    if b.isFull then t.walkFrom fuel w b
    else { w with met := w.met ++ [.missing d.name base (some b.name)] }

variable {t : SymbolTable}

theorem walkFrom_succ (fuel : Nat) (w : Walk) (d : Declaration String) :
    t.walkFrom (fuel + 1) w d =
      if w.seen.contains d.name then w
      else d.bases.foldl (t.enter fuel d) (w.visit d) := rfl

/-! ## Names not yet seen -/

def unseen (t : SymbolTable) (seen : List String) : Nat :=
  (t.names.filter fun n => !seen.contains n).length

theorem unseen_le_length (t : SymbolTable) (seen : List String) :
    t.unseen seen ≤ t.declarations.length := by
  have bound : t.unseen seen ≤ t.names.length := List.length_filter_le _ _
  rwa [names, List.length_map] at bound

theorem unseen_le_of_subset {seen more : List String} (sub : seen ⊆ more) :
    t.unseen more ≤ t.unseen seen := by
  apply List.Sublist.length_le
  apply List.monotone_filter_right
  intro n new
  simp only [Bool.not_eq_true', List.contains_eq_mem, decide_eq_false_iff_not] at new ⊢
  exact fun old => new (sub old)

theorem unseen_lt_of_new {seen more : List String} (sub : seen ⊆ more) {d : Declaration String}
    (declared : d ∈ t.declarations) (new : d.name ∉ seen) (now : d.name ∈ more) :
    t.unseen more < t.unseen seen := by
  have fewer : t.unseen more ≤
      ((t.names.filter fun n => !seen.contains n).filter (· ≠ d.name)).length := by
    rw [List.filter_filter]
    apply List.Sublist.length_le
    apply List.monotone_filter_right
    intro n other
    simp only [Bool.not_eq_true', List.contains_eq_mem, decide_eq_false_iff_not] at other
    have apart : n ≠ d.name := by
      rintro rfl
      exact other now
    have unseen : n ∉ seen := fun old => other (sub old)
    simp [apart, unseen]
  apply Nat.lt_of_le_of_lt fewer
  apply List.length_filter_lt_length_iff_exists.mpr
  refine ⟨d.name, ?_, by simp⟩
  simpa [new] using mem_names declared

/-! ## What a walk adds -/

/-- The names seen are those of the declarations visited. -/
structure Consistent (t : SymbolTable) (w : Walk) : Prop where
  seen : w.seen = w.visited.map (·.name)
  declared : ∀ b ∈ w.visited, b ∈ t.declarations

/-- What a walk that starts at a declaration, or at some of its bases, adds. -/
structure Walked (t : SymbolTable) (d : Declaration String) (w after : Walk) : Prop where
  consistent : t.Consistent after
  kept : ∀ b ∈ w.visited, b ∈ after.visited
  reached : ∀ b ∈ after.visited, b ∈ w.visited ∨ t.Inherits d b
  closed : ∀ b ∈ after.visited, b ∈ w.visited ∨ ∀ c, t.HasBase b c → c ∈ after.visited

theorem Walked.refl {d : Declaration String} {w : Walk} (consistent : t.Consistent w) :
    t.Walked d w w :=
  ⟨consistent, fun _ => id, fun _ => .inl, fun _ => .inl⟩

theorem Walked.trans {d : Declaration String} {w middle after : Walk}
    (first : t.Walked d w middle) (second : t.Walked d middle after) : t.Walked d w after := by
  refine ⟨second.consistent, fun b old => second.kept b (first.kept b old), ?_, ?_⟩
  · intro b member
    rcases second.reached b member with old | path
    · exact first.reached b old
    · exact .inr path
  · intro b member
    rcases second.closed b member with old | closed
    · rcases first.closed b old with old | closed
      · exact .inl old
      · exact .inr fun c base => second.kept c (closed c base)
    · exact .inr closed

theorem Walked.ofBase {d b : Declaration String} {w after : Walk} (walked : t.Walked b w after)
    (base : t.HasBase d b) : t.Walked d w after := by
  refine ⟨walked.consistent, walked.kept, ?_, walked.closed⟩
  intro c member
  rcases walked.reached c member with old | path
  · exact .inl old
  · exact .inr (path.head base)

theorem Consistent.missing {w : Walk} (consistent : t.Consistent w) (declaring base : String)
    (forward : Option String) :
    t.Consistent { w with met := w.met ++ [.missing declaring base forward] } := by
  have same : Walk.visited { w with met := w.met ++ [.missing declaring base forward] } =
      w.visited := by
    simp [Walk.visited, Encounter.declaration?]
  exact ⟨by rw [same]; exact consistent.seen, by rw [same]; exact consistent.declared⟩

theorem Consistent.visit {w : Walk} (consistent : t.Consistent w) {d : Declaration String}
    (declared : d ∈ t.declarations) : t.Consistent (w.visit d) := by
  constructor
  · rw [Walk.visited_visit, List.map_append, ← consistent.seen]
    rfl
  · rw [Walk.visited_visit]
    intro b member
    rcases List.mem_append.mp member with old | new
    · exact consistent.declared b old
    · rwa [List.mem_singleton.mp new]

theorem Walked.ofVisit {d : Declaration String} {w after : Walk}
    (walked : t.Walked d (w.visit d) after) (bases : ∀ c, t.HasBase d c → c ∈ after.visited) :
    t.Walked d w after := by
  have visited {b} (old : b ∈ (w.visit d).visited) : b ∈ w.visited ∨ b = d := by
    rw [Walk.visited_visit] at old
    rcases List.mem_append.mp old with old | here
    · exact .inl old
    · exact .inr (List.mem_singleton.mp here)
  refine ⟨walked.consistent, ?_, ?_, ?_⟩
  · intro b old
    apply walked.kept b
    rw [Walk.visited_visit]
    exact List.mem_append_left _ old
  · intro b member
    rcases walked.reached b member with old | path
    · rcases visited old with old | rfl
      · exact .inl old
      · exact .inr .refl
    · exact .inr path
  · intro b member
    rcases walked.closed b member with old | closed
    · rcases visited old with old | rfl
      · exact .inl old
      · exact .inr bases
    · exact .inr closed

theorem Consistent.visited_of_seen {w : Walk} (consistent : t.Consistent w) (arena : t.IsArena)
    {d : Declaration String} (declared : d ∈ t.declarations) (seen : d.name ∈ w.seen) :
    d ∈ w.visited := by
  rw [consistent.seen] at seen
  obtain ⟨b, visited, same⟩ := List.mem_map.mp seen
  have first := arena.get?_eq_some.mpr ⟨consistent.declared b visited, same⟩
  have second := arena.get?_eq_some.mpr ⟨declared, rfl⟩
  rw [first] at second
  cases second
  exact visited

theorem Walked.seen_subset {d : Declaration String} {w after : Walk} (before : t.Consistent w)
    (walked : t.Walked d w after) : w.seen ⊆ after.seen := by
  rw [before.seen, walked.consistent.seen]
  exact List.map_subset _ walked.kept

theorem walked_foldl {fuel : Nat} {d : Declaration String}
    (each : ∀ {b : Declaration String} {w : Walk}, b ∈ t.declarations → t.Consistent w →
      t.unseen w.seen < fuel → t.Walked b w (t.walkFrom fuel w b) ∧ b ∈ (t.walkFrom fuel w b).visited)
    {bases : List String} (own : ∀ base ∈ bases, base ∈ d.bases) {w : Walk}
    (consistent : t.Consistent w) (enough : t.unseen w.seen < fuel) :
    t.Walked d w (bases.foldl (t.enter fuel d) w) ∧
      ∀ base ∈ bases, ∀ b, t.resolve? base d.name = some b → b.isFull = true →
        b ∈ (bases.foldl (t.enter fuel d) w).visited := by
  induction bases generalizing w with
  | nil => exact ⟨.refl consistent, by simp⟩
  | cons base rest ih =>
    rw [List.foldl_cons]
    -- A base that cannot be followed is noted, and adds nothing to what is visited.
    have step : t.Walked d w (t.enter fuel d w base) ∧
        ∀ b, t.resolve? base d.name = some b → b.isFull = true →
          b ∈ (t.enter fuel d w base).visited := by
      have aside (forward : Option String) :
          t.Walked d w { w with met := w.met ++ [.missing d.name base forward] } := by
        refine ⟨consistent.missing _ _ _, ?_, ?_, ?_⟩ <;>
          simp +contextual [Walk.visited, Encounter.declaration?]
      unfold enter
      cases found : t.resolve? base d.name with
      | none => exact ⟨aside none, by simp⟩
      | some b =>
        cases full : b.isFull with
        | false =>
          refine ⟨by simpa [full] using aside (some b.name), ?_⟩
          rintro _ ⟨⟩ full'
          rw [full] at full'
          cases full'
        | true =>
          obtain ⟨walked, visited⟩ := each (mem_of_resolve? found) consistent enough
          have named : t.HasBase d b := ⟨full, base, own base List.mem_cons_self, found⟩
          refine ⟨by simpa [full] using walked.ofBase named, ?_⟩
          rintro _ ⟨⟩ _
          simpa [full] using visited
    obtain ⟨walked, first⟩ := step
    obtain ⟨later, others⟩ := ih (fun other member => own other (List.mem_cons_of_mem _ member))
      walked.consistent (Nat.lt_of_le_of_lt (unseen_le_of_subset (walked.seen_subset consistent)) enough)
    refine ⟨walked.trans later, ?_⟩
    intro other member b found full
    rcases List.mem_cons.mp member with rfl | member
    · exact later.kept b (first b found full)
    · exact others other member b found full

theorem walked_walkFrom (arena : t.IsArena) {fuel : Nat} {d : Declaration String} {w : Walk}
    (declared : d ∈ t.declarations) (consistent : t.Consistent w) (enough : t.unseen w.seen < fuel) :
    t.Walked d w (t.walkFrom fuel w d) ∧ d ∈ (t.walkFrom fuel w d).visited := by
  induction fuel generalizing d w with
  | zero => omega
  | succ fuel ih =>
    rw [walkFrom_succ]
    split
    next known =>
      rw [List.contains_iff_mem] at known
      exact ⟨.refl consistent, consistent.visited_of_seen arena declared known⟩
    next new =>
      rw [List.contains_iff_mem] at new
      have fewer : t.unseen (w.visit d).seen < t.unseen w.seen :=
        unseen_lt_of_new (List.subset_append_left _ _) declared new (by simp [Walk.visit])
      obtain ⟨walked, bases⟩ := walked_foldl ih (fun _ => id) (consistent.visit declared)
        (by omega)
      refine ⟨walked.ofVisit ?_, walked.kept d (by simp)⟩
      rintro c ⟨full, base, named, found⟩
      exact bases base named c found full

def lineage (t : SymbolTable) (d : Declaration String) : List (Declaration String) :=
  (t.walk d).filterMap (·.declaration?)

theorem IsArena.mem_lineage (arena : t.IsArena) {d b : Declaration String}
    (declared : d ∈ t.declarations) : b ∈ t.lineage d ↔ t.Inherits d b := by
  have start : t.Consistent ⟨[], []⟩ := ⟨rfl, by simp [Walk.visited]⟩
  have enough : t.unseen [] < t.declarations.length + 2 := by
    have bound := t.unseen_le_length []
    omega
  obtain ⟨walked, own⟩ := walked_walkFrom arena declared start enough
  change b ∈ Walk.visited _ ↔ _
  constructor
  · intro visited
    rcases walked.reached b visited with old | path
    · cases old
    · exact path
  · intro path
    -- Nothing was visited at the start, so whatever is visited now has its bases visited too.
    induction path with
    | refl => exact own
    | tail _ base ih =>
      rcases walked.closed _ ih with old | closed
      · cases old
      · exact closed _ base

theorem declared_of_inherits {d b : Declaration String}
    (declared : d ∈ t.declarations) (path : t.Inherits d b) : b ∈ t.declarations := by
  cases path with
  | refl => exact declared
  | tail _ base =>
    obtain ⟨_, _, _, found⟩ := base
    exact mem_of_resolve? found

end SymbolTable
end Understudy
