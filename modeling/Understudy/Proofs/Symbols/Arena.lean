import Mathlib.Logic.Relation
import Understudy.Symbols.Resolve

/-! The arena of a symbol table.

A table is built up record by record. Whatever the order of the records, the index finds each
name at the one place where a declaration bears it, and every stored declaration is sound.
-/

set_option autoImplicit false

open Relation

namespace Understudy.SymbolTable

open Understudy.Cpp

/-- The tables that can be built, by any order of operations. A record that is refused changes
nothing. -/
inductive Built : SymbolTable → Prop where
  | empty : Built empty
  | add {t after : SymbolTable} {d : Declaration String} {stored : Bool} :
      Built t → t.add d = .ok (after, stored) → Built after
  | addBody {t : SymbolTable} (b : FunctionBody String) : Built t → Built (t.addBody b).1
  | noteHeader {t : SymbolTable} (d : Declaration String) (header : Value) :
      Built t → Built (t.noteHeader d header)
  | diagnose {t : SymbolTable} (ds : Diagnostics) : Built t → Built { t with diagnostics := ds }

/-! ## Steps

Whatever fills a table does it in steps of three kinds, so that what each of them keeps is kept by
all.
-/

inductive Step (t : SymbolTable) : SymbolTable → Prop where
  | add {after : SymbolTable} {d : Declaration String} {stored : Bool} :
      t.add d = .ok (after, stored) → Step t after
  | addBody (b : FunctionBody String) : Step t (t.addBody b).1
  | noteHeader (d : Declaration String) (header : Value) : Step t (t.noteHeader d header)

def Steps : SymbolTable → SymbolTable → Prop := ReflTransGen Step

theorem steps_addDeclarations (t : SymbolTable) (header : Value) (ds : List (Declaration String)) :
    Steps t (t.addDeclarations header ds).1 := by
  induction ds generalizing t with
  | nil => exact .refl
  | cons d rest ih =>
    unfold SymbolTable.addDeclarations
    cases added : t.add d with
    | error fault => exact .refl
    | ok result =>
      obtain ⟨after, stored⟩ := result
      have first : Step t after := .add added
      cases stored with
      | false => exact .head first (ih after)
      | true => exact .head first (.head (.noteHeader d header) (ih _))

theorem steps_addBodies (t : SymbolTable) (bodies : List (FunctionBody String)) :
    Steps t (bodies.foldl (fun t b => (t.addBody b).1) t) := by
  induction bodies generalizing t with
  | nil => exact .refl
  | cons b rest ih => exact .head (.addBody b) (ih _)

theorem steps_addUnit (t : SymbolTable) (u : UnitRecord String) : Steps t (t.addUnit u).1 := by
  have declared := steps_addDeclarations t u.header u.declarations
  unfold SymbolTable.addUnit
  split
  next added =>
    rw [added] at declared
    exact declared
  next added =>
    rw [added] at declared
    exact declared.trans (steps_addBodies _ u.bodies)

theorem steps_addUnits (t : SymbolTable) (units : List (UnitRecord String)) :
    Steps t (t.addUnits units).1 := by
  induction units generalizing t with
  | nil => exact .refl
  | cons u rest ih =>
    have first := steps_addUnit t u
    unfold SymbolTable.addUnits
    split
    next added =>
      rw [added] at first
      exact first
    next added =>
      rw [added] at first
      exact first.trans (ih _)

theorem Built.steps {t after : SymbolTable} (built : t.Built) (steps : Steps t after) :
    after.Built := by
  induction steps with
  | refl => exact built
  | tail _ step grown =>
    cases step with
    | add added => exact grown.add added
    | addBody b => exact grown.addBody b
    | noteHeader d header => exact grown.noteHeader d header

theorem built_merge (units : List (UnitRecord String)) : (merge units).1.Built := by
  have grown := Built.empty.steps (steps_addUnits empty units)
  unfold merge
  split
  next added =>
    rw [added] at grown
    exact grown
  next added =>
    rw [added] at grown
    exact grown.diagnose _

/-! ## Bodies and headers -/

inductive AddsBody (t : SymbolTable) (b : FunctionBody String) : SymbolTable → Prop where
  | appends : t.bodyIds.get? b.name = none → AddsBody t b
      { t with bodies := t.bodies ++ [b], bodyIds := t.bodyIds.set b.name t.bodies.length }
  | passes : AddsBody t b t
  | differs (kept : FunctionBody String) :
      AddsBody t b (t.report (duplicateReport (.text b.name) "body" b.unit kept.unit))

theorem addsBody (t : SymbolTable) (b : FunctionBody String) : t.AddsBody b (t.addBody b).1 := by
  unfold SymbolTable.addBody
  split
  next new => exact .appends new
  next =>
    split
    next kept _ =>
      split
      · exact .passes
      · exact .differs kept
    next => exact .passes

theorem exists_headers_noteHeader (t : SymbolTable) (d : Declaration String) (header : Value) :
    ∃ headers, t.noteHeader d header = { t with headers } := by
  unfold SymbolTable.noteHeader
  split
  next => exact ⟨_, rfl⟩
  next => split <;> exact ⟨_, rfl⟩

/-! ## The arena -/

structure IsArena (t : SymbolTable) : Prop where
  ids : ∀ name i, t.idOf? name = some i ↔ ∃ d, t.declarations[i]? = some d ∧ d.name = name
  sound : ∀ d ∈ t.declarations, malformation? d = none

theorem index_concat {α : Type} {f : α → String} {ids : Assoc Nat} {l : List α} {a : α}
    (index : ∀ name i, ids.get? name = some i ↔ ∃ x, l[i]? = some x ∧ f x = name)
    (new : ids.get? (f a) = none) (name : String) (i : Nat) :
    (ids.set (f a) l.length).get? name = some i ↔ ∃ x, (l ++ [a])[i]? = some x ∧ f x = name := by
  -- The new name goes to the new place, and all others are found where they were.
  by_cases same : name = f a
  · subst same
    rw [Assoc.get?_set_self, Option.some.injEq]
    constructor
    · rintro rfl
      exact ⟨a, by simp, rfl⟩
    · rintro ⟨other, found, same⟩
      rw [List.getElem?_append] at found
      split at found
      next old =>
        have known := (index (f a) i).mpr ⟨other, found, same⟩
        rw [new] at known
        cases known
      next late =>
        have last := (List.getElem?_eq_some_iff.mp found).1
        simp only [List.length_singleton] at last
        omega
  · rw [Assoc.get?_set_ne _ _ same, index name i]
    apply exists_congr
    intro other
    rw [List.getElem?_append]
    split
    next => rfl
    next late =>
      constructor
      · rintro ⟨found, rfl⟩
        exact absurd (List.getElem?_eq_some_iff.mp found).1 late
      · rintro ⟨found, rfl⟩
        rw [List.getElem?_singleton] at found
        split at found
        next => exact absurd (congrArg f (Option.some.inj found)).symm same
        next => cases found

theorem IsArena.append {t : SymbolTable} (arena : t.IsArena) {d : Declaration String}
    (sound : malformation? d = none) (new : t.idOf? d.name = none) : (t.append d).IsArena := by
  constructor
  · exact index_concat arena.ids new
  · intro other member
    rcases List.mem_append.mp member with old | last
    · exact arena.sound other old
    · rwa [List.mem_singleton.mp last]

theorem IsArena.replace {t : SymbolTable} (arena : t.IsArena) {d : Declaration String} {id : Nat}
    (sound : malformation? d = none) (place : t.idOf? d.name = some id) :
    IsArena { t with declarations := t.declarations.set id d } := by
  obtain ⟨kept, old, same⟩ := (arena.ids d.name id).mp place
  have bound := (List.getElem?_eq_some_iff.mp old).1
  constructor
  · intro name i
    rw [show idOf? { t with declarations := t.declarations.set id d } name = t.idOf? name from rfl,
      arena.ids name i]
    by_cases here : i = id
    · subst here
      rw [old, List.getElem?_set_self bound]
      simp [same]
    · rw [List.getElem?_set_ne (Ne.symm here)]
  · intro other member
    rcases List.mem_or_eq_of_mem_set member with old | rfl
    · exact arena.sound other old
    · exact sound

theorem IsArena.add {t after : SymbolTable} (arena : t.IsArena) {d : Declaration String}
    {stored : Bool} (added : t.add d = .ok (after, stored)) : after.IsArena := by
  unfold SymbolTable.add at added
  split at added
  next => cases added
  next sound =>
    split at added
    next new =>
      cases added
      exact arena.append sound new
    next id place =>
      split at added
      next kept found =>
        unfold revisit at added
        split at added <;> cases added
        · exact arena
        · exact arena.replace sound place
        · exact ⟨arena.ids, arena.sound⟩
      next =>
        cases added
        exact arena

theorem Built.isArena {t : SymbolTable} (built : t.Built) : t.IsArena := by
  induction built with
  | empty => exact ⟨by simp [SymbolTable.empty, idOf?], by simp [SymbolTable.empty]⟩
  | add _ added arena => exact arena.add added
  | @addBody t b _ arena =>
    have adds := t.addsBody b
    generalize (t.addBody b).1 = after at adds ⊢
    cases adds <;> exact ⟨arena.ids, arena.sound⟩
  | @noteHeader t d header _ arena =>
    obtain ⟨headers, same⟩ := t.exists_headers_noteHeader d header
    rw [same]
    exact ⟨arena.ids, arena.sound⟩
  | diagnose ds _ arena => exact ⟨arena.ids, arena.sound⟩

theorem isArena_of_merge {units : List (UnitRecord String)} {t : SymbolTable}
    (merged : merge units = (t, none)) : t.IsArena := by
  have built := built_merge units
  rw [merged] at built
  exact built.isArena

/-! ## Looking up -/

variable {t : SymbolTable}

def names (t : SymbolTable) : List String := t.declarations.map (·.name)

theorem mem_of_get? {name : String} {d : Declaration String} (found : t.get? name = some d) :
    d ∈ t.declarations := by
  obtain ⟨i, _, place⟩ := Option.bind_eq_some_iff.mp found
  exact List.mem_of_getElem? place

theorem mem_of_resolve? {name context : String} {d : Declaration String}
    (found : t.resolve? name context = some d) : d ∈ t.declarations := by
  unfold resolve? at found
  split at found
  next => exact mem_of_get? found
  next =>
    rcases Option.or_eq_some_iff.mp found with inside | ⟨_, found⟩
    · obtain ⟨scope, _, found⟩ := List.exists_of_findSome?_eq_some inside
      exact mem_of_get? found
    · rcases Option.or_eq_some_iff.mp found with global | ⟨_, found⟩
      · exact mem_of_get? global
      · obtain ⟨unique, _, found⟩ := Option.bind_eq_some_iff.mp found
        exact mem_of_get? found

theorem mem_names {d : Declaration String} (member : d ∈ t.declarations) : d.name ∈ t.names :=
  List.mem_map_of_mem member

theorem IsArena.get?_eq_some (arena : t.IsArena) {name : String} {d : Declaration String} :
    t.get? name = some d ↔ d ∈ t.declarations ∧ d.name = name := by
  unfold get?
  rw [Option.bind_eq_some_iff]
  constructor
  · rintro ⟨i, place, found⟩
    obtain ⟨other, same, named⟩ := (arena.ids name i).mp place
    rw [found] at same
    cases same
    exact ⟨List.mem_of_getElem? found, named⟩
  · rintro ⟨member, named⟩
    obtain ⟨i, found⟩ := List.mem_iff_getElem?.mp member
    exact ⟨i, (arena.ids name i).mpr ⟨d, found, named⟩, found⟩

theorem IsArena.pairwise_names (arena : t.IsArena) :
    t.names.Pairwise fun a b => ∀ i j, t.idOf? a = some i → t.idOf? b = some j → i < j := by
  unfold names
  rw [List.pairwise_map, List.pairwise_iff_getElem]
  intro m n boundM boundN before i j first second
  have placeM := (arena.ids _ m).mpr ⟨_, List.getElem?_eq_getElem boundM, rfl⟩
  have placeN := (arena.ids _ n).mpr ⟨_, List.getElem?_eq_getElem boundN, rfl⟩
  rw [placeM] at first
  rw [placeN] at second
  cases first
  cases second
  exact before

theorem IsArena.idOf?_isSome (arena : t.IsArena) {name : String} (member : name ∈ t.names) :
    ∃ i, t.idOf? name = some i := by
  obtain ⟨d, declared, rfl⟩ := List.mem_map.mp member
  obtain ⟨i, found⟩ := List.mem_iff_getElem?.mp declared
  exact ⟨i, (arena.ids d.name i).mpr ⟨d, found, rfl⟩⟩

theorem IsArena.nodup_names (arena : t.IsArena) : t.names.Nodup := by
  apply arena.pairwise_names.imp_of_mem
  rintro a b first _ ordered rfl
  obtain ⟨i, place⟩ := arena.idOf?_isSome first
  exact Nat.lt_irrefl i (ordered i i place place)

end Understudy.SymbolTable
