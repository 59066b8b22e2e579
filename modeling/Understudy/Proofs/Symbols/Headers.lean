import Understudy.Proofs.Symbols.Merge
import Understudy.Stub.Header

/-! Where the header of a declaration comes from.

A table notes headers beside the arena. Main statement: the header of a name is that of the unit
that defines it, or, where this unit has none, that of the unit that declared the name first.
So the include of an interface leads to its definition except where the unit of the definition has
no header and a forward declaration came before it from one that has.
-/

set_option autoImplicit false

namespace Understudy

open Understudy.Cpp

namespace SymbolTable

variable {t after : SymbolTable} {d : Declaration String} {name : String} {stored : Bool}
  {header : Value} {bs : List (FunctionBody String)}

/-! ## What notes a header -/

theorem Adds.headers_eq (adds : t.Adds d after stored) : after.headers = t.headers := by
  cases adds <;> rfl

theorem AddsBody.headers_eq {b : FunctionBody String} (adds : t.AddsBody b after) :
    after.headers = t.headers := by
  cases adds <;> rfl

/-- A header that is noted goes to the name of its declaration, over any other if the declaration
is full. -/
theorem header?_noteHeader :
    (t.noteHeader d header).header? name =
      if d.name = name ∧ header.holds = true ∧ (d.isFull = true ∨ t.header? name = none) then
        some header
      else t.header? name := by
  unfold noteHeader header?
  by_cases same : d.name = name
  · subst same
    cases header.holds with
    | false => simp
    | true =>
      cases d.isFull with
      | true => simp
      | false =>
        -- A forward declaration leaves the header that its name has.
        cases noted : t.headers.get? d.name <;> simp [Assoc.setNew, Assoc.has, noted]
  · have apart : name ≠ d.name := Ne.symm same
    simp only [same, false_and, if_false]
    split
    · rfl
    · split
      · exact Assoc.get?_set_ne _ _ apart
      · unfold Assoc.setNew
        split
        · rfl
        · exact Assoc.get?_set_ne _ _ apart

/-! ## One more record -/

def given (units : List (UnitRecord String)) : List (Declaration String × Value) :=
  units.flatMap fun u => u.declarations.map (·, u.header)

variable {rs : List (Declaration String × Value)} {units : List (UnitRecord String)}

/-- Whether a declaration defines a name. -/
def defines (name : String) (d : Declaration String) : Bool := d.name == name && d.isFull

def declares (name : String) (d : Declaration String) : Bool := d.name == name

theorem defines_eq_true : defines name d = true ↔ d.name = name ∧ d.isFull = true := by
  simp [defines]

@[simp] theorem defines_self (d : Declaration String) : defines d.name d = d.isFull := by
  simp [defines]

@[simp] theorem declares_self (d : Declaration String) : declares d.name d = true := by
  simp [declares]

def definition? (rs : List (Declaration String × Value)) (name : String) :
    Option (Declaration String × Value) :=
  rs.find? fun r => defines name r.1

def introduction? (rs : List (Declaration String × Value)) (name : String) :
    Option (Declaration String × Value) :=
  rs.find? fun r => declares name r.1

def brought (r : Option (Declaration String × Value)) : Option Value :=
  (r.map (·.2)).filter (·.holds)

@[simp] theorem brought_some (r : Declaration String × Value) :
    brought (some r) = if r.2.holds = true then some r.2 else none := by
  simp [brought, Option.filter]

theorem brought_none : brought none = none := rfl

/-- The header to note for a name: of its definition, else of its first declaration. -/
def headerOf? (rs : List (Declaration String × Value)) (name : String) : Option Value :=
  (brought (definition? rs name)).or (brought (introduction? rs name))

theorem keptOf?_map :
    keptOf? (rs.map (·.1)) name =
      ((definition? rs name).map (·.1)).or ((introduction? rs name).map (·.1)) := by
  unfold keptOf? definitions
  rw [List.head?_filter, List.find?_map, List.find?_map]
  rfl

theorem isFull_of_definition? {r : Declaration String × Value}
    (first : definition? rs name = some r) : r.1.isFull = true := by
  have is : defines name r.1 = true := by simpa using List.find?_some first
  exact (defines_eq_true.mp is).2

theorem isFull_of_introduction? {r : Declaration String × Value}
    (first : introduction? rs name = some r) (undefined : definition? rs name = none) :
    r.1.isFull = false := by
  have is : declares name r.1 = true := by simpa using List.find?_some first
  have apart := List.find?_eq_none.mp undefined r (List.mem_of_find?_eq_some first)
  rw [defines_eq_true] at apart
  simpa using fun full => apart ⟨by simpa [declares] using is, full⟩

theorem definition?_eq_none (unknown : introduction? rs name = none) :
    definition? rs name = none := by
  unfold introduction? definition? at *
  rw [List.find?_eq_none] at unknown ⊢
  intro r member is
  exact unknown r member (by simpa [declares] using (defines_eq_true.mp is).1)

theorem headerOf?_concat_self :
    headerOf? (rs ++ [(d, header)]) d.name =
      if (keptOf? (rs.map (·.1)) d.name = none ∨ d.isFull = true ∧
            ∃ kept, keptOf? (rs.map (·.1)) d.name = some kept ∧ kept.isFull = false) ∧
          header.holds = true then
        some header
      else headerOf? rs d.name := by
  have definitions : definition? (rs ++ [(d, header)]) d.name =
      (definition? rs d.name).or (if d.isFull then some (d, header) else none) := by
    simp [definition?, List.find?_append, List.find?_singleton]
  have introductions : introduction? (rs ++ [(d, header)]) d.name =
      (introduction? rs d.name).or (some (d, header)) := by
    simp [introduction?, List.find?_append]
  unfold headerOf?
  rw [definitions, introductions, keptOf?_map]
  cases first : introduction? rs d.name with
  | none =>
    rw [definition?_eq_none first]
    cases d.isFull <;> simp [brought_none]
  | some other =>
    cases defined : definition? rs d.name with
    | some defining => simp [isFull_of_definition? defined]
    | none =>
      have forward := isFull_of_introduction? first defined
      by_cases holds : header.holds = true <;> cases d.isFull <;>
        simp [brought_none, forward, holds]

theorem headerOf?_eq_none (unknown : keptOf? (rs.map (·.1)) name = none) :
    headerOf? rs name = none := by
  rw [keptOf?_map, Option.or_eq_none_iff, Option.map_eq_none_iff, Option.map_eq_none_iff] at unknown
  rw [headerOf?, unknown.1, unknown.2]
  rfl

theorem headerOf?_concat_ne (apart : d.name ≠ name) :
    headerOf? (rs ++ [(d, header)]) name = headerOf? rs name := by
  simp [headerOf?, definition?, introduction?, List.find?_append, defines, declares, apart]

/-! ## The headers of a merged table -/

/-- A table holds the headers that the records added so far bring to their names. -/
structure Headed (t : SymbolTable) (rs : List (Declaration String × Value))
    (bs : List (FunctionBody String)) : Prop where
  history : t.History (rs.map (·.1)) bs
  headers : ∀ name, t.header? name = headerOf? rs name

theorem headed_empty : empty.Headed [] [] := ⟨history_empty, fun _ => rfl⟩

theorem Headed.add (headed : t.Headed rs bs) (added : t.add d = .ok (after, stored))
    (header : Value) :
    (if stored then after.noteHeader d header else after).Headed (rs ++ [(d, header)]) bs := by
  have adds := headed.history.built.isArena.adds added
  have grown := headed.history.add added
  have old (name : String) : after.header? name = headerOf? rs name := by
    rw [← headed.headers name, header?, adds.headers_eq]
    rfl
  have kept := adds.stored_iff
  rw [headed.history.kept] at kept
  constructor
  · rw [List.map_append]
    cases stored with
    | false => exact grown
    | true => exact grown.noteHeader d header
  · intro name
    by_cases same : d.name = name
    · subst same
      simp only [headerOf?_concat_self, ← kept]
      cases stored with
      | false => simp [old]
      | true =>
        -- A name that has a header already gives it up to a definition only.
        have free : d.isFull = true ∨ headerOf? rs d.name = none :=
          (kept.mp rfl).elim (fun new => .inr (headerOf?_eq_none new)) (fun full => .inl full.1)
        simp [header?_noteHeader, old, free]
    · rw [headerOf?_concat_ne same, ← old]
      cases stored <;> simp [header?_noteHeader, same]

theorem Headed.addDeclarations (headed : t.Headed rs bs) {header : Value}
    {new : List (Declaration String)} (added : (t.addDeclarations header new).2 = none) :
    (t.addDeclarations header new).1.Headed (rs ++ new.map (·, header)) bs := by
  induction new generalizing t rs with
  | nil => simpa [SymbolTable.addDeclarations] using headed
  | cons d rest ih =>
    unfold SymbolTable.addDeclarations at added ⊢
    cases outcome : t.add d with
    | error fault =>
      rw [outcome] at added
      cases added
    | ok result =>
      rw [outcome] at added
      rw [List.map_cons, List.append_cons]
      exact ih (headed.add outcome header) added

theorem Headed.addBodies (headed : t.Headed rs bs) (new : List (FunctionBody String)) :
    (new.foldl (fun t b => (t.addBody b).1) t).Headed rs (bs ++ new) := by
  induction new generalizing t bs with
  | nil => simpa using headed
  | cons b rest ih =>
    rw [List.append_cons]
    refine ih ⟨headed.history.addBody b, fun name => ?_⟩
    rw [header?, (t.addsBody b).headers_eq]
    exact headed.headers name

theorem Headed.addUnit (headed : t.Headed rs bs) {u : UnitRecord String}
    (added : (t.addUnit u).2 = none) :
    (t.addUnit u).1.Headed (rs ++ u.declarations.map (·, u.header)) (bs ++ u.bodies) := by
  unfold SymbolTable.addUnit at added ⊢
  split at added
  next => cases added
  next t' outcome =>
    have grown := headed.addDeclarations (congrArg Prod.snd outcome)
    rw [outcome] at grown
    exact grown.addBodies u.bodies

theorem Headed.addUnits (headed : t.Headed rs bs) {units : List (UnitRecord String)}
    (added : (t.addUnits units).2 = none) :
    (t.addUnits units).1.Headed (rs ++ given units) (bs ++ units.flatMap (·.bodies)) := by
  induction units generalizing t rs bs with
  | nil => simpa [SymbolTable.addUnits, given] using headed
  | cons u rest ih =>
    unfold SymbolTable.addUnits at added ⊢
    split at added
    next => cases added
    next t' outcome =>
      have grown := headed.addUnit (congrArg Prod.snd outcome)
      rw [outcome] at grown
      simpa [given, List.flatMap_cons] using ih grown added

theorem headed_merge (merged : (merge units).2 = none) :
    (merge units).1.Headed (given units) (units.flatMap (·.bodies)) := by
  have added := (addUnits_eq_none (t := empty)).mpr (merge_eq_none.mp merged)
  have headed := headed_empty.addUnits added
  rw [List.nil_append, List.nil_append] at headed
  unfold merge
  split
  next outcome =>
    rw [outcome] at added
    cases added
  next outcome =>
    rw [outcome] at headed
    exact ⟨headed.history.checkBases, headed.headers⟩

/-! ## Defining units -/

/-- The unit that defines a name: the first with a full definition of it. -/
def definingUnit? (units : List (UnitRecord String)) (name : String) :
    Option (UnitRecord String) :=
  units.find? fun u => u.declarations.any (defines name)

/-- The unit that introduces a name: the first with any declaration of it. -/
def introducingUnit? (units : List (UnitRecord String)) (name : String) :
    Option (UnitRecord String) :=
  units.find? fun u => u.declarations.any (declares name)

/-- The header of a name, if it has one, is that of the unit that defines it. -/
def IsHeadedByDefinition (t : SymbolTable) (units : List (UnitRecord String)) (name : String) :
    Prop :=
  ∀ header, t.header? name = some header → (definingUnit? units name).map (·.header) = some header

theorem find?_given (p : Declaration String → Bool) :
    (given units).find? (fun r => p r.1) =
      (units.find? fun u => u.declarations.any p).bind fun u =>
        (u.declarations.find? p).map (·, u.header) := by
  induction units with
  | nil => rfl
  | cons u rest ih =>
    rw [given, List.flatMap_cons, List.find?_append, List.find?_cons]
    change (_ : Option _).or ((given rest).find? _) = _
    rw [ih, List.find?_map, Function.comp_def]
    cases found : u.declarations.find? p with
    | none =>
      have none : u.declarations.any p = false := by
        simpa [List.find?_eq_none] using found
      simp [none]
    | some d =>
      have some : u.declarations.any p = true :=
        List.any_eq_true.mpr ⟨d, List.mem_of_find?_eq_some found, List.find?_some found⟩
      simp [some, found]

theorem exists_unit_of_find? {p : Declaration String → Bool} {r : Declaration String × Value}
    (first : (given units).find? (fun r => p r.1) = some r) :
    ∃ u, units.find? (fun u => u.declarations.any p) = some u ∧
      u.declarations.find? p = some r.1 ∧ u.header = r.2 := by
  rw [find?_given, Option.bind_eq_some_iff] at first
  obtain ⟨u, found, listed⟩ := first
  obtain ⟨d, held, rfl⟩ := Option.map_eq_some_iff.mp listed
  exact ⟨u, found, held, rfl⟩

theorem exists_definition (headed : t.Headed rs bs) (stored : t.get? name = some d)
    (full : d.isFull = true) :
    ∃ defining introducing, definition? rs name = some (d, defining) ∧
      introduction? rs name = some introducing := by
  rw [headed.history.kept, keptOf?_map] at stored
  cases defined : definition? rs name with
  | some r =>
    rw [defined] at stored
    cases stored
    cases introduced : introduction? rs name with
    | some introducing => exact ⟨r.2, introducing, rfl, rfl⟩
    | none =>
      rw [definition?_eq_none introduced] at defined
      cases defined
  | none =>
    -- Then the declaration that is kept is a forward one.
    rw [defined, Option.map_none, Option.none_or] at stored
    obtain ⟨r, introduced, rfl⟩ := Option.map_eq_some_iff.mp stored
    rw [isFull_of_introduction? introduced defined] at full
    cases full

/-! ## Includes -/

theorem Headed.holds (headed : t.Headed rs bs) (noted : t.header? name = some header) :
    header.holds = true := by
  rw [headed.headers, headerOf?, Option.or_eq_some_iff] at noted
  rcases noted with own | ⟨_, own⟩ <;> exact (Option.filter_eq_some_iff.mp own).2

theorem Headed.mem_headersOf (headed : t.Headed rs bs) {settings : Entries} {stubs : List Stub}
    {extra headers : List Value} (asked : extraHeaders settings = .ok extra)
    (written : headersOf (some t) settings stubs = .ok headers) :
    header ∈ headers ↔ header ∈ extra ∨ ∃ s ∈ stubs, t.header? s.interface = some header := by
  unfold headersOf at written
  rw [asked] at written
  cases written
  rw [List.mem_eraseDups, List.mem_append, List.mem_filterMap, or_comm]
  apply or_congr_right
  apply exists_congr
  intro s
  apply and_congr_right
  intro _
  rw [Option.filter_eq_some_iff]
  exact and_iff_left_of_imp headed.holds

/-- The header of a defined name is that of the unit that defines it, else that of the unit that
introduces it, and every header that is included is an extra one or that of an interface. So an
include leads to the definition exactly if the unit of the definition has a header or the one that
introduces the name has none. -/
theorem isHeadedByDefinition_iff_of_merge (merged : (merge units).2 = none) :
    (∀ name d, (merge units).1.get? name = some d → d.isFull = true →
      ∃ definer introducer, definingUnit? units name = some definer ∧
        definer.declarations.find? (defines name) = some d ∧
          introducingUnit? units name = some introducer ∧
            (merge units).1.header? name =
              (if definer.header.holds then some definer.header
                else if introducer.header.holds then some introducer.header else none) ∧
              ((merge units).1.IsHeadedByDefinition units name ↔
                definer.header.holds = true ∨ introducer.header.holds = false)) ∧
      ∀ settings stubs extra headers, extraHeaders settings = .ok extra →
        headersOf (some (merge units).1) settings stubs = .ok headers →
          ∀ header, header ∈ headers ↔
            header ∈ extra ∨ ∃ s ∈ stubs, (merge units).1.header? s.interface = some header := by
  have headed := headed_merge merged
  refine ⟨fun name d stored full => ?_,
    fun settings stubs extra headers asked written header => headed.mem_headersOf asked written⟩
  obtain ⟨defining, introducing, defined, introduced⟩ := exists_definition headed stored full
  obtain ⟨definer, first, listed, rfl⟩ := exists_unit_of_find? defined
  obtain ⟨introducer, second, _, same⟩ := exists_unit_of_find? introduced
  have noted : (merge units).1.header? name =
      if definer.header.holds then some definer.header
        else if introducer.header.holds then some introducer.header else none := by
    rw [headed.headers, headerOf?, defined, introduced, brought_some, brought_some, ← same]
    split <;> rfl
  refine ⟨definer, introducer, first, listed, second, noted, ?_⟩
  unfold IsHeadedByDefinition
  rw [noted, definingUnit?, first]
  by_cases own : definer.header.holds = true
  · simp [own]
  · by_cases other : introducer.header.holds = true
    · -- The header that is noted holds, so it is not the one of the definition.
      have apart : definer.header ≠ introducer.header := fun same => own (same ▸ other)
      simp [own, other, apart]
    · simp [own, other]

def declaringRelay (header : Value) (isFull : Bool) : UnitRecord String :=
  let relayed : Method String :=
    { name := "relay", parameters := [], returnType := some (.primitive "void" false)
      isPure := true, isConst := false, visibility := .public }
  { name := .text "unit"
    declarations :=
      [{ name := "Relay", kind := if isFull then .interface else .ordinary, bases := []
         methods := if isFull then [relayed] else [], fields := [], isFull, unit := .null }]
    bodies := [], header }

/-- A definition in a unit without header leaves the header of a forward declaration in place. -/
theorem not_isHeadedByDefinition_relay :
    let units := [declaringRelay (.text "forward.hpp") false, declaringRelay .null true]
    (merge units).2 = none ∧
      ((merge units).1.get? "Relay").map (·.isFull) = some true ∧
        (merge units).1.header? "Relay" = some (.text "forward.hpp") ∧
          ¬ (merge units).1.IsHeadedByDefinition units "Relay" := by
  intro units
  have noted : (merge units).1.header? "Relay" = some (.text "forward.hpp") := by decide +kernel
  refine ⟨by decide +kernel, by decide +kernel, noted, fun headed => ?_⟩
  have own := headed _ noted
  revert own
  decide +kernel

/-- A definition in a unit with a header gives its name that header. -/
theorem isHeadedByDefinition_relay :
    let units :=
      [declaringRelay (.text "forward.hpp") false, declaringRelay (.text "relay.hpp") true]
    (merge units).2 = none ∧
      ((merge units).1.get? "Relay").map (·.isFull) = some true ∧
        (merge units).1.header? "Relay" = some (.text "relay.hpp") ∧
          (merge units).1.IsHeadedByDefinition units "Relay" ∧
            ∀ s : Stub, s.interface = "Relay" → ∀ headers,
              headersOf (some (merge units).1) [] [s] = .ok headers →
                .text "relay.hpp" ∈ headers := by
  intro units
  have merged : (merge units).2 = none := by decide +kernel
  obtain ⟨names, includes⟩ := isHeadedByDefinition_iff_of_merge merged
  have stored : (merge units).1.get? "Relay" =
      (declaringRelay (.text "relay.hpp") true).declarations.head? := by
    decide +kernel
  obtain ⟨definer, introducer, first, _, _, noted, headed⟩ := names "Relay" _ stored rfl
  have named : (merge units).1.header? "Relay" = some (.text "relay.hpp") := by decide +kernel
  have defining : some (declaringRelay (.text "relay.hpp") true) = some definer :=
    (by decide +kernel : definingUnit? units "Relay" = _).symm.trans first
  cases defining
  refine ⟨merged, by decide +kernel, named, headed.mpr (.inl rfl), ?_⟩
  intro s same headers written
  exact (includes [] [s] [] headers rfl written _).mpr
    (.inr ⟨s, List.mem_singleton_self s, same ▸ named⟩)

end SymbolTable
end Understudy
