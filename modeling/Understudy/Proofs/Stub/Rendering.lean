import Mathlib.Data.Set.List
import Understudy.Proofs.Stub.Accessors
import Understudy.Proofs.Stub.Header
import Understudy.Proofs.Symbols.Headers

/-! Doubles that are generated and rendered without fault.

A table looks at return types once, when it takes a declaration. Main statement: of a table that
was filled with declarations that name their types by texts, doubles are generated and
rendered for any names, unless one of these is refused. What the table has seen to is carried
through flattening, instrumenting and the worklist to every type that is written.
-/

set_option autoImplicit false

open Relation

namespace Understudy

open Understudy.Cpp

/-! ## Tables of texts -/

def Cpp.Declaration.IsTyped (d : Declaration String) : Prop :=
  ∀ m ∈ d.methods, m.isSpelled = true ∧ m.returnType.all (·.isSpelled) = true

namespace SymbolTable

variable {t after : SymbolTable} {d e : Declaration String} {stored : Bool} {lead : String}
  {stub : Stub} {owner name : String} {m : Method String}

/-- The tables that are filled with such declarations, with bodies, and with headers that are
texts. -/
inductive Filled : SymbolTable → Prop where
  | empty : Filled empty
  | add {t after : SymbolTable} {d : Declaration String} {stored : Bool} :
      Filled t → d.IsTyped → t.add d = .ok (after, stored) → Filled after
  | addBody {t : SymbolTable} (b : FunctionBody String) : Filled t → Filled (t.addBody b).1
  | noteHeader {t : SymbolTable} (d : Declaration String) (header : String) :
      Filled t → Filled (t.noteHeader d (.text header))
  | diagnose {t : SymbolTable} (ds : Diagnostics) : Filled t → Filled { t with diagnostics := ds }

theorem Filled.built (filled : t.Filled) : t.Built := by
  induction filled with
  | empty => exact .empty
  | add _ _ added built => exact built.add added
  | addBody b _ built => exact built.addBody b
  | noteHeader d header _ built => exact built.noteHeader d (.text header)
  | diagnose ds _ built => exact built.diagnose ds

theorem Adds.eq_or_mem (adds : t.Adds d after stored) (member : e ∈ after.declarations) :
    e = d ∨ e ∈ t.declarations := by
  cases adds with
  | appends => exact (List.mem_append.mp member).symm.imp_left List.mem_singleton.mp
  | passes | differs => exact .inr member
  | takesOver => exact (List.mem_or_eq_of_mem_set member).symm

theorem AddsBody.declarations_eq {b : FunctionBody String} (adds : t.AddsBody b after) :
    after.declarations = t.declarations := by
  cases adds <;> rfl

theorem Filled.isTyped (filled : t.Filled) : ∀ d ∈ t.declarations, d.IsTyped := by
  induction filled with
  | empty => exact fun _ member => absurd member List.not_mem_nil
  | add filled typed added ih =>
    intro e member
    rcases (filled.built.isArena.adds added).eq_or_mem member with rfl | old
    · exact typed
    · exact ih e old
  | @addBody t b _ ih => rwa [(t.addsBody b).declarations_eq]
  | @noteHeader t d header _ ih =>
    obtain ⟨headers, same⟩ := t.exists_headers_noteHeader d (.text header)
    rwa [same]
  | diagnose _ _ ih => exact ih

theorem Filled.isSpelled (filled : t.Filled) : t.IsSpelled := filled.isTyped

theorem Filled.isText_header (filled : t.Filled) {header : Value}
    (noted : t.header? name = some header) : header.isText = true := by
  induction filled with
  | empty => cases noted
  | add filled _ added ih =>
    rw [header?, (filled.built.isArena.adds added).headers_eq] at noted
    exact ih noted
  | @addBody t b _ ih =>
    rw [header?, (t.addsBody b).headers_eq] at noted
    exact ih noted
  | noteHeader d text _ ih =>
    rw [header?_noteHeader] at noted
    split at noted
    · cases noted
      rfl
    · exact ih noted
  | diagnose _ _ ih => exact ih noted

end SymbolTable

/-! ## What a double writes -/

def InstrumentedMethod.written (m : InstrumentedMethod) : List SemanticType :=
  m.returnType :: m.method.parameters.map (·.type) ++ m.slots.map (·.2) ++ m.staticType?.toList

def PassthroughMethod.written (p : PassthroughMethod) : List SemanticType :=
  p.returnType :: p.returnType.stripConst :: p.method.parameters.map (·.type)

/-- What the lines of a double spell: types, in the scopes of the declarations they come from. -/
inductive Stub.Writes (s : Stub) : String → SemanticType → Prop where
  | method {m : InstrumentedMethod} {type : SemanticType} :
      m ∈ s.methods → type ∈ m.written → Writes s m.declaring type
  | passthrough {p : PassthroughMethod} {type : SemanticType} :
      p ∈ s.passthrough → type ∈ p.written → Writes s p.declaring type

/-- A double that lacks nothing of what is asked of it. -/
structure Stub.IsWhole (t : SymbolTable) (s : Stub) : Prop where
  returns : ∀ m ∈ s.methods, m.method.returnType = some m.returnType
  passes : ∀ p ∈ s.passthrough, p.method.returnType = some p.returnType
  /-- A method hands out an interface exactly if it returns one. -/
  nested : ∀ m ∈ s.methods, m.nested.isSome = m.returnKind.returnsInterface
  known : ∀ name ∈ s.nested, t.IsFullInterface name
  /-- Only void methods have no static slot. -/
  static : ∀ m ∈ s.methods, m ∈ s.returning ↔ ∃ type, m.staticType? = some type
  spelled : ∀ scope type, s.Writes scope type → type.isSpelled = true

namespace InstrumentedMethod

@[simp] theorem isSpelled_storedType (type : SemanticType) :
    (storedType type).isSpelled = type.isSpelled := by
  cases type <;> rfl

@[simp] theorem isSpelled_behind (type : SemanticType) :
    (behind type).isSpelled = type.isSpelled := by
  cases type <;> rfl

theorem isSpelled_staticType? {m : InstrumentedMethod} (spelled : m.returnType.isSpelled = true)
    {type : SemanticType} (static : m.staticType? = some type) : type.isSpelled = true := by
  unfold staticType? at static
  split at static <;> cases static
  · exact (isSpelled_behind _).trans spelled
  · exact (isSpelled_behind _).trans spelled
  · simpa [SemanticType.stripConst] using spelled
  · simpa [SemanticType.stripConst] using spelled

theorem exists_staticType?_iff {m : InstrumentedMethod} :
    (∃ type, m.staticType? = some type) ↔ m.isVoid = false := by
  unfold staticType? isVoid
  cases m.returnKind <;> simp

theorem isSpelled_of_mem_written {m : InstrumentedMethod} (result : m.returnType.isSpelled = true)
    (parameters : m.method.isSpelled = true) {type : SemanticType} (member : type ∈ m.written) :
    type.isSpelled = true := by
  have each : ∀ p ∈ m.method.parameters, p.type.isSpelled = true := List.all_eq_true.mp parameters
  unfold written at member
  simp only [List.mem_append, List.mem_cons, List.mem_map, Option.mem_toList] at member
  rcases member with ((rfl | ⟨p, given, rfl⟩) | ⟨⟨slot, kept⟩, held, rfl⟩) | static
  · exact result
  · exact each p given
  · obtain ⟨⟨p, i⟩, placed, same⟩ := List.mem_map.mp held
    cases same
    rw [isSpelled_storedType]
    exact each p (List.mem_of_getElem? (List.mem_zipIdx_iff_getElem?.mp placed))
  · exact isSpelled_staticType? result static

end InstrumentedMethod

theorem PassthroughMethod.isSpelled_of_mem_written {p : PassthroughMethod}
    (result : p.returnType.isSpelled = true) (parameters : p.method.isSpelled = true)
    {type : SemanticType} (member : type ∈ p.written) : type.isSpelled = true := by
  have each : ∀ q ∈ p.method.parameters, q.type.isSpelled = true := List.all_eq_true.mp parameters
  unfold written at member
  simp only [List.mem_cons, List.mem_map] at member
  rcases member with rfl | rfl | ⟨q, given, rfl⟩
  · exact result
  · simpa [SemanticType.stripConst] using result
  · exact each q given

namespace SymbolTable

variable {t : SymbolTable} {d : Declaration String} {lead : String} {stub : Stub} {owner : String}
  {m : Method String}

theorem exists_declaration_of_collected (arena : t.IsArena) (declared : d ∈ t.declarations)
    (member : (owner, m) ∈ t.collected d) : ∃ b ∈ t.declarations, m ∈ b.methods := by
  obtain ⟨b, visited, _, own, _⟩ := mem_collected.mp member
  exact ⟨b, declared_of_inherits declared ((arena.mem_lineage declared).mp visited), own⟩

theorem collected_of_mem_methods (member : (owner, m) ∈ (t.flatten d).methods) :
    (owner, m) ∈ t.collected d :=
  (List.mem_filter.mp ((firstBySignature_sublist _ _).subset member)).1

theorem collected_of_mem_passthrough (member : (owner, m) ∈ (t.flatten d).passthrough) :
    (owner, m) ∈ t.collected d :=
  (List.mem_filter.mp ((firstBySignature_sublist _ _).subset member)).1

theorem returnType_of_passThrough {inherited : Inherited} {p : PassthroughMethod}
    (made : passThrough inherited = .ok p) : p.method.returnType = some p.returnType := by
  unfold passThrough at made
  dsimp only at made
  split at made
  next => cases made
  next returned =>
    cases made
    exact returned

theorem returnType_of_buildStub {lead : Value} (made : t.buildStub lead d = .ok stub) :
    ∀ p ∈ stub.passthrough, p.method.returnType = some p.returnType := by
  unfold buildStub at made
  dsimp only at made
  split at made
  next => cases made
  next =>
    obtain ⟨_, _, made⟩ := exists_of_bind_eq_ok made
    obtain ⟨_, passed, made⟩ := exists_of_bind_eq_ok made
    split at made
    next =>
      cases made
      have each := (forall₂_of_mapM passed).flip.imp fun p _ made =>
        And.intro (returnType_of_passThrough made) trivial
      exact ((List.forall₂_and_left _ _).mp each).1
    next => cases made

theorem isWhole_of_buildStub (arena : t.IsArena) (spelled : t.IsSpelled)
    (declared : d ∈ t.declarations) (made : t.buildStub (.text lead) d = .ok stub) :
    stub.IsWhole t := by
  have double := isDouble_of_buildStub arena spelled declared made
  -- What the table has seen to for each declaration holds of all that is collected from them.
  have own {owner : String} {m : Method String} (member : (owner, m) ∈ t.collected d) :
      m.isSpelled = true ∧ m.returnType.all (·.isSpelled) = true := by
    obtain ⟨b, known, held⟩ := exists_declaration_of_collected arena declared member
    exact spelled b known m held
  refine ⟨?returns, returnType_of_buildStub made, ?nested, double.nested, ?static, ?spelled⟩
  case returns =>
    intro m member
    obtain ⟨_, instrumented⟩ := exists_isInstrumented made member
    exact instrumented.declared
  case nested =>
    intro m member
    exact (nested_of_returnKind made member).1.symm
  case static =>
    intro m member
    rw [InstrumentedMethod.exists_staticType?_iff, Stub.returning, List.mem_filter,
      and_iff_right member, Bool.not_eq_true']
  case spelled =>
    rintro scope type (⟨member, written⟩ | ⟨member, written⟩)
    case method m =>
      have flat : (m.declaring, m.method) ∈ (t.flatten d).methods :=
        double.methods ▸ List.mem_map_of_mem member
      exact InstrumentedMethod.isSpelled_of_mem_written
        (isSpelled_returnType arena spelled declared made member)
        (own (collected_of_mem_methods flat)).1 written
    case passthrough p =>
      have flat : (p.declaring, p.method) ∈ (t.flatten d).passthrough :=
        double.passthrough ▸ List.mem_map_of_mem member
      obtain ⟨parameters, result⟩ := own (collected_of_mem_passthrough flat)
      rw [returnType_of_buildStub made p member] at result
      exact PassthroughMethod.isSpelled_of_mem_written result parameters written

end SymbolTable

/-! ## Rendering -/

/-- Settings of texts, as far as they are given. -/
structure AreTexts (settings : Entries) : Prop where
  lead : ∀ v, settings.get? "prefix" = some v → v.isText = true
  guarded : ∀ v, settings.get? "guard" = some v → v = .null ∨ v.isText = true
  basename : ∀ v, settings.get? "basename" = some v → v.isText = true
  /-- Extra headers stand in one text or in a list of texts. -/
  includes : ∀ v, settings.get? "includes" = some v →
    v = .null ∨ v.isText = true ∨ ∃ headers : List String, v = .list (headers.map .text)
  workers : ∀ v, settings.get? "workers" = some v → ∃ n, v = .int n

theorem exists_of_isText {v : Value} (isText : v.isText = true) : ∃ s, v = .text s := by
  cases v with
  | text s => exact ⟨s, rfl⟩
  | _ => cases isText

section Rendering

variable {settings : Entries} {symbols : Option SymbolTable} {stubs : List Stub}

theorem exists_guardOf (texts : AreTexts settings) : ∃ guard, guardOf settings = .ok guard := by
  unfold guardOf
  dsimp only
  split
  · exact ⟨_, rfl⟩
  · cases named : settings.get? "basename" with
    | none => exact ⟨_, rfl⟩
    | some v =>
      obtain ⟨basename, rfl⟩ := exists_of_isText (texts.basename v named)
      exact ⟨_, rfl⟩

theorem exists_extraHeaders (texts : AreTexts settings) :
    ∃ extra, extraHeaders settings = .ok extra ∧ ∀ header ∈ extra, header.isText = true := by
  unfold extraHeaders
  cases given : settings.get? "includes" with
  | none => exact ⟨[], rfl, by simp⟩
  | some v =>
    rcases texts.includes v given with rfl | isText | ⟨headers, rfl⟩
    · exact ⟨[], rfl, by simp⟩
    · obtain ⟨s, rfl⟩ := exists_of_isText isText
      refine ⟨_, rfl, ?_⟩
      intro header member
      obtain ⟨part, _, rfl⟩ := List.mem_map.mp member
      rfl
    · cases headers with
      | nil => exact ⟨[], rfl, by simp⟩
      | cons first rest =>
        refine ⟨_, rfl, ?_⟩
        intro header member
        obtain ⟨part, _, rfl⟩ := List.mem_map.mp member
        rfl

theorem exists_headersOf (texts : AreTexts settings)
    (noted : ∀ s ∈ stubs, ∀ header, symbols.bind (·.header? s.interface) = some header →
      header.isText = true) :
    ∃ headers, headersOf symbols settings stubs = .ok headers ∧
      ∀ header ∈ headers, header.isText = true := by
  obtain ⟨extra, given, areTexts⟩ := exists_extraHeaders texts
  unfold headersOf
  rw [given]
  refine ⟨_, rfl, ?_⟩
  intro header member
  rcases List.mem_append.mp (List.mem_eraseDups.mp member) with own | other
  · obtain ⟨s, listed, brought⟩ := List.mem_filterMap.mp own
    exact noted s listed header (Option.filter_eq_some_iff.mp brought).1
  · exact areTexts header other

theorem exists_includeLines {headers : List Value}
    (areTexts : ∀ header ∈ headers, header.isText = true) :
    ∃ lines, includeLines headers = .ok lines := by
  obtain ⟨texts, rfl⟩ : headers ∈ Set.range (List.map Value.text) := by
    rw [Set.range_list_map]
    intro header member
    obtain ⟨s, rfl⟩ := exists_of_isText (areTexts header member)
    exact Set.mem_range_self s
  unfold includeLines
  split
  · exact ⟨[], rfl⟩
  · rw [List.mapM_map]
    have each : texts.mapM (fun s => pure (Text.includeLine s)) =
        (pure (texts.map Text.includeLine) : Except Slip _) := List.mapM_pure
    exact ⟨_, congrArg (Except.map (· ++ [""])) each⟩

/-! ### What is spelled -/

def Stub.SpellsAlike (symbols other : Option SymbolTable) (s : Stub) : Prop :=
  ∀ scope type, s.Writes scope type → spellIn symbols scope type = spellIn other scope type

variable {other : Option SymbolTable} {s : Stub}

theorem parameterList_congr {scope : String} {parameters : List Parameter}
    (same : ∀ p ∈ parameters, spellIn symbols scope p.type = spellIn other scope p.type) :
    parameterList symbols scope parameters = parameterList other scope parameters := by
  unfold parameterList
  congr 1
  apply List.map_congr_left
  rintro ⟨p, index⟩ placed
  dsimp only
  rw [same p (List.mem_of_getElem? (List.mem_zipIdx_iff_getElem?.mp placed))]

namespace Stub.SpellsAlike

variable (alike : s.SpellsAlike symbols other) {m : InstrumentedMethod} {p : PassthroughMethod}

include alike

theorem result (member : m ∈ s.methods) :
    spellIn symbols m.declaring m.returnType = spellIn other m.declaring m.returnType :=
  alike _ _ (.method member (by simp [InstrumentedMethod.written]))

theorem parameters (member : m ∈ s.methods) :
    parameterList symbols m.declaring m.method.parameters =
      parameterList other m.declaring m.method.parameters :=
  parameterList_congr fun q given =>
    alike _ _ (.method member (by
      simp only [InstrumentedMethod.written, List.mem_append, List.mem_cons]
      exact .inl (.inl (.inr (List.mem_map_of_mem given)))))

theorem callbackLines_eq (member : m ∈ s.methods) :
    callbackLines symbols m = callbackLines other m := by
  unfold callbackLines
  rw [alike.result member, alike.parameters member]

theorem counterLines_eq (member : m ∈ s.methods) :
    counterLines symbols m = counterLines other m := by
  unfold counterLines
  congr 2
  apply List.map_congr_left
  rintro ⟨slot, type⟩ held
  have same := alike m.declaring type (.method member (by
    simp only [InstrumentedMethod.written, List.mem_append]
    exact .inl (.inr (List.mem_map.mpr ⟨_, held, rfl⟩))))
  dsimp only
  rw [same]

theorem staticLines_eq (member : m ∈ s.methods) : staticLines symbols m = staticLines other m := by
  unfold staticLines
  cases static : m.staticType? with
  | none => rfl
  | some type =>
    have same := alike m.declaring type (.method member (by
      simp [InstrumentedMethod.written, static]))
    simp only [same]

theorem overrideOf_eq (member : m ∈ s.methods) : overrideOf symbols m = overrideOf other m := by
  unfold overrideOf
  rw [alike.result member, alike.parameters member]

theorem passthroughOf_eq (member : p ∈ s.passthrough) :
    passthroughOf symbols p = passthroughOf other p := by
  have result := alike _ _ (.passthrough member List.mem_cons_self)
  have fresh := alike _ _ (.passthrough member (List.mem_cons_of_mem _ List.mem_cons_self))
  have parameters : parameterList symbols p.declaring p.method.parameters =
      parameterList other p.declaring p.method.parameters :=
    parameterList_congr fun q given =>
      alike _ _ (.passthrough member (List.mem_cons_of_mem _ (List.mem_cons_of_mem _
        (List.mem_map_of_mem given))))
  unfold passthroughOf passthroughBody
  rw [result, fresh, parameters]

theorem interfaceMembers_eq : interfaceMembers symbols s = interfaceMembers other s := by
  unfold interfaceMembers
  rw [List.map_congr_left fun m member => alike.overrideOf_eq member,
    List.map_congr_left fun p member => alike.passthroughOf_eq member]

theorem declarationLines_eq : declarationLines symbols s = declarationLines other s := by
  have callbacks : callbacksOf symbols s = callbacksOf other s := by
    unfold callbacksOf
    rw [List.flatMap_congr fun m member => alike.callbackLines_eq member]
  have counters : countersOf symbols s = countersOf other s := by
    unfold countersOf
    rw [List.flatMap_congr fun m member => alike.counterLines_eq member]
  have statics : staticsOf symbols s = staticsOf other s := by
    have each : ∀ m ∈ s.returning, staticLines symbols m = staticLines other m :=
      fun m member => alike.staticLines_eq (List.mem_filter.mp member).1
    unfold staticsOf
    rw [List.flatMap_congr each]
  unfold declarationLines classOf
  rw [callbacks, counters, statics, alike.interfaceMembers_eq]

theorem definitionLines_eq : definitionLines symbols s = definitionLines other s := by
  unfold definitionLines memberFunctions
  rw [alike.interfaceMembers_eq]

end Stub.SpellsAlike

theorem stubLines_congr (alike : ∀ s ∈ stubs, s.SpellsAlike symbols other) :
    stubLines symbols stubs = stubLines other stubs := by
  unfold stubLines
  rw [List.flatMap_congr fun s member => (alike s member).declarationLines_eq,
    List.flatMap_congr fun s member => (alike s member).definitionLines_eq]

/-! ### What cannot fail -/

theorem typeSlip?_eq_none {type : SemanticType} (spelled : type.isSpelled = true) :
    typeSlip? symbols type = none := by
  unfold typeSlip?
  rw [Option.isNone_iff_eq_none.mp spelled]
  rfl

theorem Stub.IsWhole.stubSlip?_eq_none {t : SymbolTable} {s : Stub} (whole : s.IsWhole t) :
    stubSlip? symbols s = none := by
  unfold stubSlip?
  rw [List.findSome?_eq_none_iff]
  intro type member
  apply typeSlip?_eq_none
  rcases List.mem_append.mp member with of | of
  · obtain ⟨m, held, rfl⟩ := List.mem_map.mp of
    exact whole.spelled _ _ (.method held (by simp [InstrumentedMethod.written]))
  · obtain ⟨p, held, rfl⟩ := List.mem_map.mp of
    exact whole.spelled _ _ (.passthrough held List.mem_cons_self)

theorem exists_renderHeader {t : SymbolTable} (diagnostics : Diagnostics)
    (texts : AreTexts settings) (whole : ∀ s ∈ stubs, s.IsWhole t)
    (noted : ∀ s ∈ stubs, ∀ header, symbols.bind (·.header? s.interface) = some header →
      header.isText = true) :
    ∃ source, renderHeader symbols diagnostics settings stubs = .ok source := by
  obtain ⟨guard, guarded⟩ := exists_guardOf texts
  obtain ⟨headers, listed, areTexts⟩ := exists_headersOf texts noted
  obtain ⟨includes, included⟩ := exists_includeLines areTexts
  have spelled : stubs.findSome? (stubSlip? symbols) = none :=
    List.findSome?_eq_none_iff.mpr fun s member => (whole s member).stubSlip?_eq_none
  unfold renderHeader
  simp only [guarded, listed, included, spelled, bind, Except.bind]
  exact ⟨_, rfl⟩

end Rendering

/-! ## Generation -/

namespace Generator

/-- The states that a generator goes through: a name that is asked for and stands for an interface
goes on an empty worklist, and the loop takes its turns. -/
inductive Working (start : Generator) : Generator → List String → Prop where
  | start : Working start start []
  | ask {g : Generator} {name : String} {d : Declaration String} :
      Working start g [] → g.table.interface name = .ok d → Working start g [d.name]
  | turn {g after : Generator} {worklist later : List String} :
      Working start g worklist → Turn (g, worklist) (after, later) → Working start after later

variable {t : SymbolTable} {start g after : Generator} {lead : String}
  {names worklist later : List String}

theorem Working.turns (working : Working start g worklist)
    (run : ReflTransGen Turn (g, worklist) (after, later)) : Working start after later := by
  generalize last : (after, later) = state at run
  induction run generalizing after later with
  | refl =>
    cases last
    exact working
  | tail _ turn ih =>
    cases last
    exact (ih rfl).turn turn

theorem Working.exists_owes (arena : t.IsArena) (owes : Owes t lead [] start [])
    (working : Working start g worklist) : ∃ names, Owes t lead names g worklist := by
  induction working with
  | start => exact ⟨[], owes⟩
  | ask _ stands ih =>
    obtain ⟨names, owes⟩ := ih
    -- The generator's table differs from the one it was given in its reports only.
    rw [owes.interface_eq] at stands
    exact ⟨names ++ [_], owes.ask stands⟩
  | turn _ turn ih =>
    obtain ⟨names, owes⟩ := ih
    exact ⟨names, turn.owes arena owes⟩

structure IsSound (t : SymbolTable) (g : Generator) (worklist : List String) : Prop where
  /-- What is on the worklist is an interface of the table. -/
  declared : ∀ name ∈ worklist,
    ∃ d, g.table.get? name = some d ∧ d.isInterface = true ∧ d.isFull = true
  whole : ∀ s ∈ g.stubs, s.IsWhole t
  /-- The doubles that are kept can be rendered, with the table and without. -/
  rendered : ∀ symbols, symbols = none ∨ symbols = some g.table →
    ∀ diagnostics settings, AreTexts settings →
      ∃ source, renderHeader symbols diagnostics settings g.stubs = .ok source
  /-- No type is written that has no spelling. -/
  spelled : ∀ symbols other,
    (∀ scope type, type.isSpelled = true → spellIn symbols scope type = spellIn other scope type) →
      stubLines symbols g.stubs = stubLines other g.stubs

theorem Owes.isSound (filled : t.Filled) (owes : Owes t lead names g worklist) :
    IsSound t g worklist := by
  have arena := filled.built.isArena
  obtain ⟨ds, table⟩ := owes.table
  have whole : ∀ s ∈ g.stubs, s.IsWhole t := by
    intro s listed
    obtain ⟨name, known⟩ := mem_stubs.mp listed
    obtain ⟨d, found, built⟩ := owes.entries name s known
    exact SymbolTable.isWhole_of_buildStub arena filled.isSpelled (SymbolTable.mem_of_get? found)
      built
  refine ⟨?declared, whole, ?rendered, ?spelled⟩
  case declared =>
    intro name due
    obtain ⟨d, declared, rfl, proper, full⟩ :=
      (owes.needed name (.inr due)).isFullInterface arena filled.isSpelled
    refine ⟨d, ?_, proper, full⟩
    rw [table]
    exact arena.get?_eq_some.mpr ⟨declared, rfl⟩
  case rendered =>
    intro symbols known diagnostics settings texts
    refine exists_renderHeader diagnostics texts whole fun s _ header noted => ?_
    rcases known with rfl | rfl
    · cases noted
    · rw [table] at noted
      exact filled.isText_header noted
  case spelled =>
    intro symbols other same
    exact stubLines_congr fun s listed scope type written =>
      same scope type ((whole s listed).spelled scope type written)

theorem Owes.generateEach_cases (arena : t.IsArena) (spelled : t.IsSpelled)
    (owes : Owes t lead names g []) (working : Working start g []) (more : List String) :
    Working start (g.generateEach more).1 [] ∧
      ((∃ name ∈ more, ∃ why, t.Refused name why ∧
          (g.generateEach more).2 = some (.interface why)) ∨
        (g.generateEach more).2 = none) := by
  induction more generalizing g names with
  | nil => exact ⟨working, .inr rfl⟩
  | cons name rest ih =>
    unfold Generator.generateEach
    cases stands : t.interface name with
    | error why =>
      rw [owes.generate_error stands]
      exact ⟨working, .inl ⟨name, List.mem_cons_self, why,
        SymbolTable.interface_eq_error.mp stands, rfl⟩⟩
    | ok d =>
      obtain ⟨between, stub, generated, _, run, settled, _⟩ :=
        owes.generate_ok arena spelled stands
      rw [generated]
      have asked : Working start g [d.name] :=
        working.ask ((owes.interface_eq name).trans stands)
      obtain ⟨later, outcome⟩ := ih settled (asked.turns run)
      refine ⟨later, outcome.imp_left ?_⟩
      rintro ⟨other, member, refused⟩
      exact ⟨other, List.mem_cons_of_mem _ member, refused⟩

theorem generateNamed_texts (g : Generator) (names : List String) :
    g.generateNamed (names.map .text) = g.generateEach names := by
  have texts : (((names.map Value.text).map Value.text?).takeWhile (·.isSome)).filterMap id =
      names := by
    induction names with
    | nil => rfl
    | cons name rest ih => simpa [Value.text?] using ih
  unfold generateNamed
  rw [texts]
  cases each : g.generateEach names with
  | mk after outcome => cases outcome <;> simp [each]

end Generator

namespace SymbolTable

variable {t : SymbolTable}

/-- What is asked for: a list of names, or else all interfaces. -/
inductive Asks (t : SymbolTable) : Value → List String → Prop where
  | all : Asks t .null (t.interfaces.map (·.name))
  | each (names : List String) : Asks t (.list (names.map .text)) names

theorem Asks.requestedNames_eq {asked workers : Value} {names : List String}
    (asks : t.Asks asked names) {n : Int} (number : workers = .int n) :
    requestedNames t asked workers = .ok (names.map .text) := by
  subst number
  cases asks with
  | all => simp [requestedNames, moreThanOne]
  | each => rfl

/-- Doubles are generated and rendered for whatever is asked for, unless a name is refused that was
asked for. -/
theorem stubView_cases (filled : t.Filled) (classification : Option Classification)
    {asked settings : Value} {names : List String} (asks : t.Asks asked names) {entries : Entries}
    (given : sectionEntries settings = .ok entries) (texts : AreTexts entries) :
    let start : Generator :=
      ⟨t, classification, (entries.get? "prefix").getD (.text "Stub"), []⟩
    (∀ g worklist, start.Working g worklist → g.IsSound t worklist) ∧
      ∃ g outcome, t.stubView classification asked settings = (g, outcome) ∧
        start.Working g [] ∧
          ((∃ name ∈ names, ∃ why, t.Refused name why ∧ outcome = .error (.interface why)) ∨
            ∃ source, outcome = .ok ⟨g, g.stubs, source⟩) := by
  intro start
  obtain ⟨lead, led⟩ : ∃ lead, (entries.get? "prefix").getD (.text "Stub") = .text lead := by
    cases named : entries.get? "prefix" with
    | none => exact ⟨_, rfl⟩
    | some v => exact exists_of_isText (texts.lead v named)
  obtain ⟨n, number⟩ : ∃ n, (entries.get? "workers").getD (.int 1) = .int n := by
    cases counted : entries.get? "workers" with
    | none => exact ⟨1, rfl⟩
    | some v => exact texts.workers v counted
  have owes : Generator.Owes t lead [] start [] := by
    rw [show start = ⟨t, classification, .text lead, []⟩ by rw [← led]]
    exact Generator.owes_fresh t classification lead
  have arena := filled.built.isArena
  -- That every state on the way is sound is what leaves no fault for rendering.
  have sound (g : Generator) (worklist : List String) (working : start.Working g worklist) :
      g.IsSound t worklist := by
    obtain ⟨_, owes⟩ := working.exists_owes arena owes
    exact owes.isSound filled
  refine ⟨sound, ?_⟩
  obtain ⟨working, outcome⟩ := owes.generateEach_cases arena filled.isSpelled .start names
  have generated : start.generateAsked asked ((entries.get? "workers").getD (.int 1)) =
      start.generateEach names := by
    unfold Generator.generateAsked
    rw [asks.requestedNames_eq number]
    exact Generator.generateNamed_texts start names
  unfold stubView
  simp only [given]
  rw [generated]
  cases each : start.generateEach names with
  | mk g fault =>
    rw [each] at working outcome
    rcases outcome with ⟨name, member, why, refused, failed⟩ | done
    · cases failed
      exact ⟨g, _, rfl, working, .inl ⟨name, member, why, refused, rfl⟩⟩
    · cases done
      obtain ⟨source, rendered⟩ := (sound g [] working).rendered (some g.table) (.inr rfl)
        g.table.diagnostics entries texts
      simp only [rendered]
      exact ⟨g, _, rfl, working, .inr ⟨source, rfl⟩⟩

def supplying (target : SemanticType) : Declaration String :=
  { name := "Source", kind := .interface, bases := []
    methods :=
      [{ name := "next", parameters := [⟨.primitive "int" false, .null⟩]
         returnType := some (.pointer target false), isPure := true, isConst := false
         visibility := .public },
       { name := "operator=", parameters := [⟨.reference (.named "Source" true) false, .null⟩]
         returnType := some (.reference (.named "Source" false) false), isPure := true
         isConst := false, visibility := .public }]
    fields := [], isFull := true, unit := .null }

def supplied (target : SemanticType) : SymbolTable := empty.append (supplying target)

/-- An interface that hands itself out is generated and rendered. -/
theorem stubView_supplied :
    let t := supplied (.named "Source" false)
    let settings : Value := .object [("prefix", .text "Fake"), ("includes", .text "<new>, a.hpp")]
    empty.add (supplying (.named "Source" false)) = .ok (t, true) ∧
      ∃ view, (t.stubView none (.list [.text "Source"]) settings).2 = .ok view ∧
        ∀ s ∈ view.stubs, s.IsWhole t := by
  intro t settings
  have added : empty.add (supplying (.named "Source" false)) = .ok (t, true) := by decide +kernel
  have typed : (supplying (.named "Source" false)).IsTyped := by
    unfold Cpp.Declaration.IsTyped
    decide +kernel
  have filled : t.Filled := .add .empty typed added
  have texts : AreTexts [("prefix", .text "Fake"), ("includes", .text "<new>, a.hpp")] := by
    constructor <;> intro v given <;> cases given
    · rfl
    · exact .inr (.inl rfl)
  have given : sectionEntries settings = .ok _ := rfl
  obtain ⟨sound, g, outcome, viewed, working, refused | ⟨source, made⟩⟩ :=
    stubView_cases filled none (.each ["Source"]) given texts
  · obtain ⟨name, member, why, refused, _⟩ := refused
    cases List.mem_singleton.mp member
    have stands : (t.interface "Source").isOk = true := by decide +kernel
    rw [interface_eq_error.mpr refused] at stands
    cases stands
  · rw [made] at viewed
    exact ⟨added, _, congrArg Prod.snd viewed, (sound g [] working).whole⟩

/-- A pointer to what has no name stops the generation of an interface that is not refused. -/
theorem stubView_nameless :
    let t := supplied (.misnamed false .null false)
    empty.add (supplying (.misnamed false .null false)) = .ok (t, true) ∧
      (t.interface "Source").isOk = true ∧
        (t.stubView none (.list [.text "Source"]) .null).2 = .error (.slip .noMember) := by
  decide +kernel

end SymbolTable
end Understudy
