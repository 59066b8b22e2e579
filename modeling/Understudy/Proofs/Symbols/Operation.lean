import Understudy.Proofs.Symbols.Scoping
import Understudy.Symbols.Intake

/-! What a table is like after any run of operations.

A table keeps its arena, the bodies and three indices side by side, and every operation updates them
by hand. Main statement: after any operations, refused ones included, the indices say what a scan of
the arena says, and more operations move nothing that has a place.
-/

set_option autoImplicit false

open Relation

namespace Understudy

open Understudy.Cpp

inductive Operation where
  | add (d : Declaration String)
  | addBody (b : FunctionBody String)
  | addUnit (u : UnitRecord String)

namespace SymbolTable

variable {t after : SymbolTable}

/-! ## Indices -/

def bodyNames (t : SymbolTable) : List String := t.bodies.map (·.name)

/-- All indices say what a scan says. -/
structure IsIndexed (t : SymbolTable) : Prop where
  names : t.names.Nodup
  ids : ∀ name i, t.idOf? name = some i ↔ t.names[i]? = some name
  /-- Under a short name stand all names that have it, each once and in the order of the arena. -/
  shortNames : ∀ short, (t.shortNames.get? short).getD [] = t.names.filter (shortName · == short)
  bodyNames : t.bodyNames.Nodup
  bodyIds : ∀ name i, t.bodyIds.get? name = some i ↔ t.bodyNames[i]? = some name
  sound : ∀ d ∈ t.declarations, malformation? d = none

theorem nodup_of_index {names : List String} {ids : Assoc Nat}
    (index : ∀ name i, ids.get? name = some i ↔ names[i]? = some name) : names.Nodup := by
  apply List.pairwise_iff_getElem.mpr
  intro i j boundI boundJ before same
  have first := (index names[i] i).mpr (List.getElem?_eq_getElem boundI)
  have second := (index names[j] j).mpr (List.getElem?_eq_getElem boundJ)
  rw [← same, first] at second
  cases second
  exact Nat.lt_irrefl i before

theorem Built.bodyIds (built : t.Built) :
    ∀ name i, t.bodyIds.get? name = some i ↔ ∃ b, t.bodies[i]? = some b ∧ b.name = name := by
  induction built with
  | empty => simp [SymbolTable.empty]
  | add built added ih => cases built.isArena.adds added <;> exact ih
  | @addBody t b _ ih =>
    have adds := t.addsBody b
    generalize (t.addBody b).1 = after at adds ⊢
    cases adds with
    | appends new => exact index_concat ih new
    | passes => exact ih
    | differs => exact ih
  | @noteHeader t d header _ ih =>
    obtain ⟨headers, same⟩ := t.exists_headers_noteHeader d header
    rw [same]
    exact ih
  | diagnose ds _ ih => exact ih

theorem Built.isIndexed (built : t.Built) : t.IsIndexed := by
  have arena := built.isArena
  have bodyIds (name : String) (i : Nat) :
      t.bodyIds.get? name = some i ↔ t.bodyNames[i]? = some name := by
    rw [built.bodyIds, bodyNames, List.getElem?_map, Option.map_eq_some_iff]
  constructor
  case names => exact arena.nodup_names
  case ids =>
    intro name i
    rw [arena.ids, names, List.getElem?_map, Option.map_eq_some_iff]
  case shortNames => exact built.shortNames_eq
  case bodyNames => exact nodup_of_index bodyIds
  case bodyIds => exact bodyIds
  case sound => exact arena.sound

/-! ## What steps leave in place -/

/-- Nothing that has a place in one table is moved or replaced in the other, forward declarations
apart. -/
structure Extends (t after : SymbolTable) : Prop where
  ids : ∀ name i, t.idOf? name = some i → after.idOf? name = some i
  full : ∀ (i : Nat) (d : Declaration String), t.declarations[i]? = some d → d.isFull = true →
    after.declarations[i]? = some d
  bodyIds : ∀ name i, t.bodyIds.get? name = some i → after.bodyIds.get? name = some i
  bodies : ∀ (i : Nat) (b : FunctionBody String), t.bodies[i]? = some b → after.bodies[i]? = some b

theorem Extends.beside (t : SymbolTable) (headers : Assoc Value) (shortNames : Assoc (List String))
    (diagnostics : Diagnostics) : t.Extends { t with headers, shortNames, diagnostics } where
  ids := fun _ _ => id
  full := fun _ _ found _ => found
  bodyIds := fun _ _ => id
  bodies := fun _ _ => id

theorem Extends.trans {between : SymbolTable} (first : t.Extends between)
    (second : between.Extends after) : t.Extends after where
  ids := fun name i place => second.ids name i (first.ids name i place)
  full := fun i d found full => second.full i d (first.full i d found full) full
  bodyIds := fun name i place => second.bodyIds name i (first.bodyIds name i place)
  bodies := fun i b found => second.bodies i b (first.bodies i b found)

theorem get?_set_of_new {ids : Assoc Nat} {key name : String} {i j : Nat}
    (new : ids.get? key = none) (place : ids.get? name = some i) :
    (ids.set key j).get? name = some i := by
  rw [Assoc.get?_set_ne, place]
  rintro rfl
  rw [new] at place
  cases place

theorem getElem?_append_of_some {α : Type} {l : List α} {i : Nat} {x : α}
    (found : l[i]? = some x) (back : List α) : (l ++ back)[i]? = some x := by
  rw [List.getElem?_append_left (List.getElem?_eq_some_iff.mp found).1, found]

theorem Adds.extends {d : Declaration String} {stored : Bool} (arena : t.IsArena)
    (adds : t.Adds d after stored) : t.Extends after := by
  cases adds with
  | appends new =>
    refine ⟨fun name i place => ?_, fun i other found _ => ?_, fun _ _ => id, fun _ _ => id⟩
    · exact get?_set_of_new ((get?_eq_none arena).mp new) place
    · exact getElem?_append_of_some found [d]
  | @takesOver id kept place known full forward =>
    refine ⟨fun _ _ place => place, fun i other found full => ?_, fun _ _ same => same,
      fun _ _ same => same⟩
    -- Only the place of a forward declaration gets another one.
    have apart : id ≠ i := by
      rintro rfl
      have same : t.get? d.name = some other := by
        unfold get?
        rw [place, Option.bind_some, found]
      rw [known] at same
      cases same
      rw [forward] at full
      cases full
    rw [List.getElem?_set_ne apart, found]
  | passes | differs => exact .beside t _ _ _

theorem AddsBody.extends {b : FunctionBody String} (adds : t.AddsBody b after) :
    t.Extends after := by
  cases adds with
  | appends new =>
    exact ⟨fun _ _ => id, fun _ _ found _ => found, fun _ _ => get?_set_of_new new,
      fun _ _ found => getElem?_append_of_some found [b]⟩
  | passes | differs => exact .beside t _ _ _

theorem Step.extends (built : t.Built) (step : Step t after) : t.Extends after := by
  cases step with
  | add added => exact (built.isArena.adds added).extends built.isArena
  | addBody b => exact (t.addsBody b).extends
  | noteHeader d header =>
    obtain ⟨headers, same⟩ := t.exists_headers_noteHeader d header
    rw [same]
    exact .beside t _ _ _

theorem Built.extends_of_steps (built : t.Built) (steps : Steps t after) : t.Extends after := by
  induction steps with
  | refl => exact .beside t _ _ _
  | tail before step ih => exact ih.trans (step.extends (built.steps before))

/-! ## Refused units -/

theorem addDeclarations_eq_some {header : Value} {ds : List (Declaration String)}
    {fault : Malformed} (refused : (t.addDeclarations header ds).2 = some fault) :
    ∃ front d back, ds = front ++ d :: back ∧
      (∃ reason, malformation? d = some reason ∧ fault = ⟨.text d.name, reason⟩) ∧
      t.addDeclarations header front = ((t.addDeclarations header ds).1, none) := by
  induction ds generalizing t with
  | nil => cases refused
  | cons d rest ih =>
    cases added : t.add d with
    | error first =>
      simp only [SymbolTable.addDeclarations, added, Option.some.injEq] at refused ⊢
      subst refused
      exact ⟨[], d, rest, rfl, add_eq_error.mp added, rfl⟩
    | ok result =>
      simp only [SymbolTable.addDeclarations, added] at refused ⊢
      obtain ⟨front, bad, back, split, why, same⟩ := ih refused
      refine ⟨d :: front, bad, back, by rw [split]; rfl, why, ?_⟩
      simp only [SymbolTable.addDeclarations, added]
      exact same

theorem addUnit_eq_some {u : UnitRecord String} {fault : Malformed}
    (refused : (t.addUnit u).2 = some fault) :
    ∃ front d back, u.declarations = front ++ d :: back ∧
      (∃ reason, malformation? d = some reason ∧ fault = ⟨.text d.name, reason⟩) ∧
      t.addUnit ⟨u.name, front, [], u.header⟩ = ((t.addUnit u).1, none) := by
  unfold SymbolTable.addUnit at refused ⊢
  cases added : t.addDeclarations u.header u.declarations with
  | mk after fault =>
    rw [added] at refused
    cases fault with
    | none => cases refused
    | some first =>
      cases refused
      obtain ⟨front, d, back, split, why, same⟩ :=
        addDeclarations_eq_some (congrArg Prod.snd added)
      exact ⟨front, d, back, split, why, by rw [same, added]; rfl⟩

end SymbolTable

/-! ## Records as documents give them

An intake works on records whose names and bases may be any values. Where all of them are texts it
does what the table does, and keeps nothing aside.
-/

namespace Cpp

theorem Method.mapName?_text (m : Method String) :
    (m.mapName Value.text).mapName? Value.text? = some m := rfl

theorem Declaration.mapName?_text {β : Type} (d : Declaration String β) :
    (d.mapName Value.text).mapName? Value.text? = some d := by
  have methods : (d.methods.map (·.mapName Value.text)).mapM (·.mapName? Value.text?) =
      some d.methods := by
    induction d.methods with
    | nil => rfl
    | cons m rest ih => simp [ih, Method.mapName?_text]
  simp [mapName?, mapName, Value.text?, methods]

def Declaration.given (d : Declaration String) : Declaration Value :=
  (d.mapName Value.text).withBases (d.bases.map .text)

def UnitRecord.given (u : UnitRecord String) : UnitRecord Value :=
  ⟨u.name, u.declarations.map (·.given), u.bodies.map (·.mapName .text), u.header⟩

end Cpp

namespace Intake

theorem settled?_given (d : Declaration String) : settled? d.given = some d := by
  have bases : (d.bases.map Value.text).filterMap Value.text? = d.bases := by
    rw [List.filterMap_map]
    exact List.filterMap_some
  have named : d.given.mapName? Value.text? = some (d.withBases (d.bases.map Value.text)) :=
    Declaration.mapName?_text (d.withBases (d.bases.map Value.text))
  rw [settled?, named]
  change some (d.withBases ((d.bases.map Value.text).filterMap Value.text?)) = _
  rw [bases]
  rfl

def ofTable (t : SymbolTable) : Intake := ⟨t, [], []⟩

section Texts

variable (t : SymbolTable)

theorem keepBases_text (name : String) (bases : List String) :
    (ofTable t).keepBases name (bases.map .text) = ofTable t := by
  simp [keepBases, ofTable, Assoc.erase, Value.isText, Value.text?]

theorem hiddenReport?_text (d : Declaration String) :
    (ofTable t).hiddenReport? d (d.bases.map .text) = none := by
  unfold hiddenReport?
  split
  next kept _ =>
    rw [if_neg]
    intro differs
    simp only [Bool.and_eq_true, bne_iff_ne, ne_eq] at differs
    have same : kept.canon = d.canon := beq_iff_eq.mp differs.1.2
    have bases : (ofTable t).basesOf kept = d.bases.map .text :=
      congrArg (·.map Value.text) (congrArg (·.bases) same)
    exact differs.2 (congrArg _ bases)
  next => rfl

theorem add_text (d : Declaration String) :
    (ofTable t).add d.given =
      match t.add d with
      | .error fault => (ofTable t, .error (.malformed fault))
      | .ok (after, stored) => (ofTable after, .ok stored) := by
  have table : (ofTable t).table = t := rfl
  have given : d.given.bases = d.bases.map .text := rfl
  rw [add, settled?_given, given]
  dsimp only
  rw [table, hiddenReport?_text]
  cases t.add d with
  | error fault => rfl
  | ok result =>
    obtain ⟨after, stored⟩ := result
    cases stored with
    | true => exact congrArg (·, _) (keepBases_text after d.name d.bases)
    | false => rfl

theorem addBody_text (b : FunctionBody String) :
    (ofTable t).addBody (b.mapName .text) = (ofTable (t.addBody b).1, .ok (t.addBody b).2) :=
  rfl

theorem noteHeader_text (d : Declaration String) (header : Value) :
    (ofTable t).noteHeader d.given header = ofTable (t.noteHeader d header) := by
  rw [noteHeader, settled?_given]
  rfl

theorem addEach_noted (header : Value)
    {addNoted : Intake → Declaration Value → Intake × Except IntakeFault Unit}
    (noted : ∀ t d, addNoted (ofTable t) d.given =
      match t.add d with
      | .error fault => (ofTable t, .error (.malformed fault))
      | .ok (after, stored) =>
        (ofTable (if stored then after.noteHeader d header else after), .ok ()))
    (ds : List (Declaration String)) :
    addEach addNoted (ofTable t) (ds.map (·.given)) =
      (ofTable (t.addDeclarations header ds).1,
        (t.addDeclarations header ds).2.map .malformed) := by
  induction ds generalizing t with
  | nil => rfl
  | cons d rest ih =>
    rw [List.map_cons, addEach, noted, SymbolTable.addDeclarations]
    cases t.add d with
    | error fault => rfl
    | ok result => exact ih _

theorem addEach_bodies_text (bodies : List (FunctionBody String)) :
    addEach (fun t b => ((t.addBody b).1, (t.addBody b).2.map fun _ => ())) (ofTable t)
        (bodies.map (·.mapName .text)) =
      (ofTable (bodies.foldl (fun t b => (t.addBody b).1) t), none) := by
  induction bodies generalizing t with
  | nil => rfl
  | cons b rest ih =>
    rw [List.map_cons, addEach, addBody_text]
    exact ih (t.addBody b).1

theorem addUnit_text (u : UnitRecord String) :
    (ofTable t).addUnit u.given = (ofTable (t.addUnit u).1, (t.addUnit u).2.map .malformed) := by
  simp only [addUnit, UnitRecord.given, SymbolTable.addUnit]
  rw [addEach_noted t u.header ?noted]
  case noted =>
    intro t d
    rw [add_text]
    cases t.add d with
    | error fault => rfl
    | ok result => cases stored : result.2 <;> simp [stored, noteHeader_text, Except.map]
  cases added : t.addDeclarations u.header u.declarations with
  | mk after fault =>
    cases fault with
    | some fault => rfl
    | none => exact addEach_bodies_text after u.bodies

theorem addUnits_text (units : List (UnitRecord String)) :
    (ofTable t).addUnits (units.map (·.given)) =
      (ofTable (t.addUnits units).1, (t.addUnits units).2.map .malformed) := by
  induction units generalizing t with
  | nil => rfl
  | cons u rest ih =>
    rw [List.map_cons, addUnits, addUnit_text, SymbolTable.addUnits]
    cases added : t.addUnit u with
    | mk after fault =>
      cases fault with
      | some fault => rfl
      | none => exact ih after

theorem arena_text : (ofTable t).arena = t.declarations.map (·.given) := by
  have alone : (ofTable t).arena = t.declarations.zipIdx.flatMap (fun x => [x.1.given]) ++ [] := rfl
  rw [alone, List.append_nil, ← List.map_eq_flatMap]
  calc t.declarations.zipIdx.map (fun x => x.1.given)
      = (t.declarations.zipIdx.map Prod.fst).map (·.given) := by rw [List.map_map]; rfl
    _ = t.declarations.map (·.given) := by rw [List.zipIdx_map_fst]

theorem baseReport_text (context base : String) :
    (ofTable t).baseReport (.text context) (.text base) = .ok (t.baseReport? context base) := by
  have found : (ofTable t).resolve? (.text base) (.text context) =
      .ok ((t.resolve? base context).map (·.given)) := rfl
  rw [baseReport, found, SymbolTable.baseReport?]
  cases t.resolve? base context <;> rfl

theorem checkEach_text (named : List (String × String)) :
    (ofTable t).checkEach (named.map (Prod.map .text .text)) =
      (ofTable { t with
        diagnostics := t.diagnostics.reportAll
          (named.filterMap fun x => t.baseReport? x.1 x.2) }, none) := by
  induction named generalizing t with
  | nil => rfl
  | cons first rest ih =>
    rw [List.map_cons, List.filterMap_cons]
    change (ofTable t).checkEach ((.text first.1, .text first.2) :: _) = _
    rw [checkEach, baseReport_text]
    cases t.baseReport? first.1 first.2 with
    | none => exact ih t
    | some report => exact ih (t.report report)

end Texts

theorem mergeDocuments_given (units : List (UnitRecord String)) :
    SymbolTable.mergeDocuments (units.map (·.given)) =
      ((SymbolTable.merge units).1, (SymbolTable.merge units).2.map .malformed) := by
  have filled := addUnits_text .empty units
  change empty.addUnits _ = _ at filled
  rw [SymbolTable.mergeDocuments, filled, SymbolTable.merge]
  cases SymbolTable.empty.addUnits units with
  | mk t fault =>
    cases fault with
    | some fault => rfl
    | none =>
      have named : (ofTable t).arena.flatMap (fun d => d.bases.map (d.name, ·)) =
          t.namedBases.map (Prod.map .text .text) := by
        rw [arena_text, SymbolTable.namedBases, List.flatMap_map, List.map_flatMap]
        simp [Declaration.given, Declaration.withBases, Declaration.mapName, Function.comp_def]
      change ((ofTable t).checkBases.1.table, (ofTable t).checkBases.2.map IntakeFault.slip) = _
      rw [checkBases, named, checkEach_text]
      rfl

/-! ## Runs -/

def perform (t : Intake) : Operation → Intake × Option IntakeFault
  | .add d =>
    match t.add d.given with
    | (t, .error fault) => (t, some fault)
    | (t, .ok _) => (t, none)
  | .addBody b =>
    match t.addBody (b.mapName .text) with
    | (t, .error fault) => (t, some fault)
    | (t, .ok _) => (t, none)
  | .addUnit u => t.addUnit u.given

/-- Do operations in order, whatever becomes of each. -/
def performAll (t : Intake) (ops : List Operation) : Intake :=
  ops.foldl (fun t op => (t.perform op).1) t

theorem perform_spec (t : SymbolTable) (op : Operation) :
    ∃ after, ((ofTable t).perform op).1 = ofTable after ∧ SymbolTable.Steps t after := by
  cases op with
  | add d =>
    rw [perform, add_text]
    cases added : t.add d with
    | error fault => exact ⟨t, rfl, .refl⟩
    | ok result => exact ⟨result.1, rfl, .single (.add added)⟩
  | addBody b => exact ⟨(t.addBody b).1, rfl, .single (.addBody b)⟩
  | addUnit u =>
    rw [perform, addUnit_text]
    exact ⟨(t.addUnit u).1, rfl, t.steps_addUnit u⟩

theorem performAll_spec (t : SymbolTable) (ops : List Operation) :
    ∃ after, (ofTable t).performAll ops = ofTable after ∧
      SymbolTable.Steps t after := by
  induction ops generalizing t with
  | nil => exact ⟨t, rfl, .refl⟩
  | cons op rest ih =>
    obtain ⟨between, first, steps⟩ := perform_spec t op
    obtain ⟨after, done, more⟩ := ih between
    refine ⟨after, ?_, steps.trans more⟩
    rw [performAll, List.foldl_cons, first]
    exact done

def Refuses (d : Declaration String) (fault : IntakeFault) : Prop :=
  ∃ reason, malformation? d = some reason ∧ fault = .malformed ⟨.text d.name, reason⟩

theorem perform_add {t : SymbolTable} {d : Declaration String}
    {fault : IntakeFault} (refused : ((ofTable t).perform (.add d)).2 = some fault) :
    ((ofTable t).perform (.add d)).1 = ofTable t ∧ Refuses d fault := by
  rw [perform, add_text] at refused ⊢
  cases added : t.add d with
  | ok result =>
    rw [added] at refused
    cases refused
  | error fault =>
    rw [added] at refused
    cases refused
    obtain ⟨reason, malformed, rfl⟩ := SymbolTable.add_eq_error.mp added
    exact ⟨rfl, reason, malformed, rfl⟩

theorem perform_addUnit {t : SymbolTable} {u : UnitRecord String}
    {fault : IntakeFault} (refused : ((ofTable t).perform (.addUnit u)).2 = some fault) :
    ∃ front d back, u.declarations = front ++ d :: back ∧ Refuses d fault ∧
      (ofTable t).perform (.addUnit ⟨u.name, front, [], u.header⟩) =
        (((ofTable t).perform (.addUnit u)).1, none) := by
  rw [perform, addUnit_text, Option.map_eq_some_iff] at refused
  obtain ⟨fault, refused, rfl⟩ := refused
  obtain ⟨front, d, back, split, ⟨reason, malformed, rfl⟩, same⟩ :=
    SymbolTable.addUnit_eq_some refused
  refine ⟨front, d, back, split, ⟨reason, malformed, rfl⟩, ?_⟩
  rw [perform, perform, addUnit_text, addUnit_text, same]
  rfl

/-- After any operations the indices of the table say what a scan says, and further operations move
nothing that has a place. A declaration that is refused leaves everything as it was, and so a unit
is taken up to the first such. -/
theorem performAll_isIndexed (ops : List Operation) :
    (empty.performAll ops).strays = [] ∧ (empty.performAll ops).table.IsIndexed ∧
      (∀ more, (empty.performAll ops).table.Extends (empty.performAll (ops ++ more)).table) ∧
      (∀ d fault, ((empty.performAll ops).perform (.add d)).2 = some fault →
        ((empty.performAll ops).perform (.add d)).1 = empty.performAll ops ∧ Refuses d fault) ∧
      ∀ u fault, ((empty.performAll ops).perform (.addUnit u)).2 = some fault →
        ∃ front d back, u.declarations = front ++ d :: back ∧ Refuses d fault ∧
          (empty.performAll ops).perform (.addUnit ⟨u.name, front, [], u.header⟩) =
            (((empty.performAll ops).perform (.addUnit u)).1, none) := by
  obtain ⟨t, filled, steps⟩ := performAll_spec .empty ops
  have built := SymbolTable.Built.empty.steps steps
  change empty.performAll ops = _ at filled
  rw [filled]
  refine ⟨rfl, built.isIndexed, fun more => ?_, fun d fault => perform_add,
    fun u fault => perform_addUnit⟩
  obtain ⟨after, grown, further⟩ := performAll_spec t more
  have joined : empty.performAll (ops ++ more) = (empty.performAll ops).performAll more :=
    List.foldl_append
  rw [joined, filled, grown]
  exact built.extends_of_steps further

def overfull : Declaration String :=
  { name := "ns::B", kind := .ordinary, bases := [], methods := []
    fields := [⟨.text "size", .primitive "int" false, .text "ns::B"⟩], isFull := false, unit := .null }

/-- A forward declaration, and a unit that defines it but is refused before its bodies. -/
def interrupted : List Operation :=
  let declaring (name : String) (isFull : Bool) : Declaration String :=
    { name, kind := .interface, bases := [], methods := [], fields := [], isFull, unit := .null }
  [.add (declaring "ns::A" false), .addBody ⟨"run", .null, [], .null⟩,
   .addUnit
    { name := .text "second", declarations := [declaring "ns::A" true, overfull, declaring "C" true]
      bodies := [⟨"walk", .null, [], .null⟩], header := .text "a.h" }]

theorem performAll_isIndexed_interrupted :
    let t := empty.performAll interrupted
    t.table.IsIndexed ∧ t.table.idOf? "ns::A" = some 0 ∧
      t.table.declarations.map (·.isFull) = [true] ∧ t.table.bodyNames = ["run"] ∧
        (t.perform (.add overfull)).2 ≠ none ∧ (t.perform (.add overfull)).1 = t := by
  intro t
  obtain ⟨_, indexed, _, refusing, _⟩ := performAll_isIndexed interrupted
  have refused : (t.perform (.add overfull)).2 =
      some (.malformed ⟨.text "ns::B", .forwardMembers⟩) := by decide +kernel
  refine ⟨indexed, by decide +kernel, by decide +kernel, by decide +kernel, ?_,
    (refusing overfull _ refused).1⟩
  rw [refused]
  exact Option.some_ne_none _

end Intake
end Understudy
