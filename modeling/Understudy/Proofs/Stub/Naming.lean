import Mathlib.Data.List.Nodup
import Understudy.Proofs.Stub.Accessors
import Understudy.Proofs.Stub.Change
import Understudy.Proofs.Text.Fragment
import Understudy.Stub.Header

/-! The names that a header declares.

Names of classes and namespaces are made from interfaces, those of structs and members from
accessors, by words put before and behind. Main statement: a header declares no name twice in one
scope exactly if no name made in one way is also made in another. The names alone do not see to that.
What stands in a name for an interface is a fragment, the same one wherever the interface is named.
-/

set_option autoImplicit false

namespace Understudy

open Understudy.Cpp

/-! ## Declarations read back from lines -/

def between? (front back line : String) : Option String := do
  let rest ← line.toList.dropPrefix? front.toList
  let name ← rest.dropSuffix? back.toList
  return String.ofList name

def classesIn (lines : List String) : List String := lines.filterMap (between? "class " ";")

def namespacesIn (lines : List String) : List String :=
  lines.filterMap (between? "namespace " " \x7b")

def structsIn (lines : List String) : List String := lines.filterMap (between? "struct " " \x7b")

theorem between?_eq_some {front back line name : String} :
    between? front back line = some name ↔ line = front ++ name ++ back := by
  unfold between?
  simp only [Option.bind_eq_bind, Option.bind_eq_some_iff, List.dropPrefix?_eq_some_iff,
    List.dropSuffix?_eq_some_iff, beq_iff_eq, Option.pure_def, Option.some.injEq]
  constructor
  · rintro ⟨rest, ⟨_, cut, rfl⟩, l, ⟨_, rfl, rfl⟩, rfl⟩
    simp [← String.toList_inj, cut]
  · rintro rfl
    refine ⟨name.toList ++ back.toList, ⟨_, by simp, rfl⟩, name.toList, ⟨_, rfl, rfl⟩, by simp⟩

@[simp] theorem between?_self (front name back : String) :
    between? front back (front ++ name ++ back) = some name :=
  between?_eq_some.mpr rfl

theorem between?_eq_none {front back line : String} (apart : ∀ name, line ≠ front ++ name ++ back) :
    between? front back line = none :=
  Option.eq_none_iff_forall_ne_some.mpr fun name found => apart name (between?_eq_some.mp found)

theorem between?_of_head? {front back line : String} (begins : front.toList ≠ [])
    (other : line.toList.head? ≠ front.toList.head?) : between? front back line = none := by
  refine between?_eq_none fun name same => other ?_
  rw [same, String.toList_append, String.toList_append, List.append_assoc,
    List.head?_append_of_ne_nil _ begins]

def IsOrdinary (line : String) : Prop :=
  line.toList.head? ≠ some 'c' ∧ line.toList.head? ≠ some 'n'

def AreOrdinary (lines : List String) : Prop := ∀ line ∈ lines, IsOrdinary line

@[simp] theorem areOrdinary_nil : AreOrdinary [] := by simp [AreOrdinary]

@[simp] theorem areOrdinary_cons {line : String} {rest : List String} :
    AreOrdinary (line :: rest) ↔ IsOrdinary line ∧ AreOrdinary rest := by
  simp [AreOrdinary]

@[simp] theorem areOrdinary_append {first rest : List String} :
    AreOrdinary (first ++ rest) ↔ AreOrdinary first ∧ AreOrdinary rest := by
  simp [AreOrdinary, or_imp, forall_and]

@[simp] theorem areOrdinary_map {α : Type} {l : List α} {f : α → String} :
    AreOrdinary (l.map f) ↔ ∀ a ∈ l, IsOrdinary (f a) := by
  simp [AreOrdinary]

@[simp] theorem areOrdinary_flatMap {α : Type} {l : List α} {f : α → List String} :
    AreOrdinary (l.flatMap f) ↔ ∀ a ∈ l, AreOrdinary (f a) := by
  simp only [AreOrdinary, List.mem_flatMap, forall_exists_index, and_imp]
  exact ⟨fun each a member line => each line a member, fun each line a member => each a member line⟩

@[simp] theorem classesIn_append (first rest : List String) :
    classesIn (first ++ rest) = classesIn first ++ classesIn rest :=
  List.filterMap_append

@[simp] theorem namespacesIn_append (first rest : List String) :
    namespacesIn (first ++ rest) = namespacesIn first ++ namespacesIn rest :=
  List.filterMap_append

theorem classesIn_ordinary {lines : List String} (ordinary : AreOrdinary lines) :
    classesIn lines = [] :=
  List.filterMap_eq_nil_iff.mpr fun line member => between?_of_head? (by simp) (ordinary line member).1

theorem namespacesIn_ordinary {lines : List String} (ordinary : AreOrdinary lines) :
    namespacesIn lines = [] :=
  List.filterMap_eq_nil_iff.mpr fun line member => between?_of_head? (by simp) (ordinary line member).2

/-! ## Lines of a double -/

section Lines

variable (symbols : Option SymbolTable) (s : Stub)

@[simp] theorem areOrdinary_callbackLines (m : InstrumentedMethod) :
    AreOrdinary (callbackLines symbols m) := by
  simp [callbackLines, IsOrdinary, indentation]

@[simp] theorem areOrdinary_counterLines (m : InstrumentedMethod) :
    AreOrdinary (counterLines symbols m) := by
  simp [counterLines, IsOrdinary, indentation]

@[simp] theorem areOrdinary_staticLines (m : InstrumentedMethod) :
    AreOrdinary (staticLines symbols m) := by
  unfold staticLines
  split <;> simp [IsOrdinary, indentation]

@[simp] theorem areOrdinary_aggregateLines (name space : String) (accessors : List String) :
    AreOrdinary (aggregateLines name space accessors) := by
  simp [aggregateLines, IsOrdinary, indentation]

@[simp] theorem areOrdinary_closing (space : String) : AreOrdinary (closing space) := by
  simp [closing, IsOrdinary]

theorem areOrdinary_stateMembers : AreOrdinary (stateMembers s) := by
  simp [stateMembers, IsOrdinary, indentation]

@[simp] theorem areOrdinary_guarded (condition statement : String) :
    AreOrdinary (Statement.guarded condition statement) := by
  simp [Statement.guarded, IsOrdinary, indentation, twice]

@[simp] theorem areOrdinary_lines (m : InstrumentedMethod) (statement : Statement) :
    AreOrdinary (statement.lines m) := by
  cases statement <;> simp [Statement.lines, IsOrdinary, indentation]

@[simp] theorem areOrdinary_passthroughBody (p : PassthroughMethod) :
    AreOrdinary (passthroughBody symbols p) := by
  unfold passthroughBody
  split
  · simp [IsOrdinary, indentation]
  · split <;> simp [IsOrdinary, indentation]

@[simp] theorem areOrdinary_define {owner : String} {f : MemberFunction} :
    AreOrdinary (f.define owner) ↔ AreOrdinary f.body := by
  simp [MemberFunction.define, IsOrdinary]

theorem areOrdinary_definitionLines : AreOrdinary (definitionLines symbols s) := by
  simp [definitionLines, memberFunctions, interfaceMembers, constructorOf, destructorOf, gettersOf,
    aggregateNames, overrideOf, passthroughOf, nestedOf, IsOrdinary, indentation]

/-! ## Names in a header -/

def spaceWords : List String := ["Callback", "Counter", "Static", "Internal"]

def Stub.spaces (s : Stub) : List String := spaceWords.map fun word => s.lead ++ word ++ s.suffix

/-- Lines that open a namespace, close it, and neither open nor declare anything else outside
structs. -/
def IsSpace (space : String) (lines : List String) : Prop :=
  ∃ inner, AreOrdinary inner ∧ lines = [opening space] ++ inner ++ closing space

theorem IsSpace.namespacesIn {space : String} {lines : List String} (isSpace : IsSpace space lines) :
    namespacesIn lines = [space] := by
  obtain ⟨inner, ordinary, rfl⟩ := isSpace
  have opened : Understudy.namespacesIn [opening space] = [space] :=
    List.filterMap_cons_some (between?_self "namespace " space " \x7b")
  simp only [namespacesIn_append, opened, namespacesIn_ordinary ordinary,
    namespacesIn_ordinary (areOrdinary_closing space), List.append_nil]

theorem IsSpace.classesIn {space : String} {lines : List String} (isSpace : IsSpace space lines) :
    classesIn lines = [] := by
  obtain ⟨inner, ordinary, rfl⟩ := isSpace
  have opened : Understudy.classesIn [opening space] = [] :=
    List.filterMap_cons_none (between?_of_head? (by simp) (by simp [opening]))
  simp only [classesIn_append, opened, classesIn_ordinary ordinary,
    classesIn_ordinary (areOrdinary_closing space), List.append_nil]

theorem isSpace_callbacksOf : IsSpace s.callbackSpace (callbacksOf symbols s) :=
  ⟨_, by simp, rfl⟩

theorem isSpace_countersOf : IsSpace s.counterSpace (countersOf symbols s) :=
  ⟨_, by simp, rfl⟩

theorem isSpace_staticsOf : IsSpace s.staticSpace (staticsOf symbols s) :=
  ⟨_, by simp, rfl⟩

theorem isSpace_internalOf : IsSpace s.internalSpace (internalOf s) := by
  refine ⟨["template<typename T>", "void StubInit(T* value) \x7b", indentation ++ "*value = T();",
      "\x7d", ""] ++ aggregateLines "StubCounter" s.counterSpace (s.methods.map (·.accessor))
    ++ aggregateLines "StubCallback" s.callbackSpace (s.methods.map (·.accessor))
    ++ aggregateLines "StubStatic" s.staticSpace (s.returning.map (·.accessor)), ?_, rfl⟩
  simp [IsOrdinary, indentation]

theorem areOrdinary_comments :
    AreOrdinary (["// Test double of " ++ s.interface]
      ++ s.unresolvedBases.map ("// unresolved base: " ++ ·)) := by
  simp [IsOrdinary]

theorem exists_classOf : ∃ rest, AreOrdinary rest ∧
    classOf symbols s = ("class " ++ s.name ++ " : public " ++ s.interface ++ " \x7b") :: rest := by
  refine ⟨_, ?_, rfl⟩
  simp [IsOrdinary, indentation, MemberFunction.declare, areOrdinary_stateMembers]

theorem namespacesIn_classOf : namespacesIn (classOf symbols s) = [] := by
  obtain ⟨rest, ordinary, same⟩ := exists_classOf symbols s
  rw [same]
  exact (List.filterMap_cons_none (between?_of_head? (by simp) (by simp))).trans
    (namespacesIn_ordinary ordinary)

theorem classesIn_classOf : classesIn (classOf symbols s) = [] := by
  obtain ⟨rest, ordinary, same⟩ := exists_classOf symbols s
  rw [same]
  refine (List.filterMap_cons_none ?_).trans (classesIn_ordinary ordinary)
  refine between?_eq_none fun name same => ?_
  have last := congrArg (fun line : String => line.toList.getLast?) same
  simp [List.getLast?_cons, List.getLast?_append] at last

theorem namespacesIn_declarationLines : namespacesIn (declarationLines symbols s) = s.spaces := by
  simp only [declarationLines, namespacesIn_append, namespacesIn_ordinary (areOrdinary_comments s),
    (isSpace_callbacksOf symbols s).namespacesIn, (isSpace_countersOf symbols s).namespacesIn,
    (isSpace_staticsOf symbols s).namespacesIn, (isSpace_internalOf s).namespacesIn,
    namespacesIn_classOf]
  rfl

theorem classesIn_declarationLines : classesIn (declarationLines symbols s) = [] := by
  simp only [declarationLines, classesIn_append, classesIn_ordinary (areOrdinary_comments s),
    (isSpace_callbacksOf symbols s).classesIn, (isSpace_countersOf symbols s).classesIn,
    (isSpace_staticsOf symbols s).classesIn, (isSpace_internalOf s).classesIn, classesIn_classOf]
  rfl

theorem structsIn_callbackLines (m : InstrumentedMethod) :
    structsIn (callbackLines symbols m) = ["I" ++ m.accessor, m.accessor ++ "_t"] := by
  have skip {line : String} (other : line.toList.head? ≠ some 's') :
      between? "struct " " \x7b" line = none :=
    between?_of_head? (by simp) other
  have slot : "struct " ++ m.accessor ++ "_t \x7b" = "struct " ++ (m.accessor ++ "_t") ++ " \x7b" := by
    simp [← String.toList_inj]
  unfold structsIn callbackLines
  rw [List.filterMap_cons_some (between?_self _ _ _),
    List.filterMap_cons_none (skip (by simp [indentation])),
    List.filterMap_cons_none (skip (by simp [indentation])),
    List.filterMap_cons_none (skip (by simp)), slot,
    List.filterMap_cons_some (between?_self _ _ _),
    List.filterMap_cons_none (skip (by simp [indentation])),
    List.filterMap_cons_none (skip (by simp))]
  rfl

theorem structsIn_callbacksOf :
    structsIn (callbacksOf symbols s) =
      (s.methods.map (·.accessor)).flatMap fun a => ["I" ++ a, a ++ "_t"] := by
  have skip {line : String} (other : line.toList.head? ≠ some 's') :
      between? "struct " " \x7b" line = none :=
    between?_of_head? (by simp) other
  have opened : structsIn [opening s.callbackSpace] = [] :=
    List.filterMap_cons_none (skip (by simp [opening]))
  have closed : structsIn (closing s.callbackSpace) = [] :=
    (List.filterMap_cons_none (skip (by simp))).trans (List.filterMap_cons_none (skip (by simp)))
  unfold structsIn at opened closed ⊢
  rw [callbacksOf, List.filterMap_append, List.filterMap_append, opened, closed, List.nil_append,
    List.append_nil, List.filterMap_flatMap, List.flatMap_map]
  exact List.flatMap_congr fun m _ => structsIn_callbackLines symbols m

variable (stubs : List Stub)

theorem areOrdinary_definitions : AreOrdinary (stubs.flatMap (definitionLines symbols)) :=
  areOrdinary_flatMap.mpr fun s _ => areOrdinary_definitionLines symbols s

theorem classesIn_stubLines : classesIn (stubLines symbols stubs) = stubs.map (·.name) := by
  have ahead : classesIn (stubs.map fun s => "class " ++ s.name ++ ";") = stubs.map (·.name) := by
    simp [classesIn, List.filterMap_map]
  have declared : classesIn (stubs.flatMap (declarationLines symbols)) = [] := by
    unfold classesIn
    rw [List.filterMap_flatMap]
    exact List.flatMap_eq_nil_iff.mpr fun s _ => classesIn_declarationLines symbols s
  have blank : classesIn [""] = [] := by decide
  unfold stubLines
  rw [classesIn_append, classesIn_append, declared,
    classesIn_ordinary (areOrdinary_definitions symbols stubs), List.append_nil, List.append_nil]
  split
  next none => simp [List.isEmpty_iff.mp none, classesIn]
  next => rw [classesIn_append, ahead, blank, List.append_nil]

theorem namespacesIn_stubLines :
    namespacesIn (stubLines symbols stubs) = stubs.flatMap (·.spaces) := by
  have ahead : namespacesIn (stubs.map fun s => "class " ++ s.name ++ ";") = [] := by
    unfold namespacesIn
    rw [List.filterMap_map]
    exact List.filterMap_eq_nil_iff.mpr fun s _ => between?_of_head? (by simp) (by simp)
  have declared : namespacesIn (stubs.flatMap (declarationLines symbols)) =
      stubs.flatMap (·.spaces) := by
    unfold namespacesIn
    rw [List.filterMap_flatMap]
    exact List.flatMap_congr fun s _ => namespacesIn_declarationLines symbols s
  have blank : namespacesIn [""] = [] := by decide
  unfold stubLines
  rw [namespacesIn_append, namespacesIn_append, declared,
    namespacesIn_ordinary (areOrdinary_definitions symbols stubs), List.append_nil]
  split
  next => rfl
  next => rw [namespacesIn_append, ahead, blank, List.append_nil, List.nil_append]

end Lines

/-! ## Names of classes -/

/-- How the class of a double goes by its interface, among doubles with the same leading words. -/
structure GoesBy (lead : Value) (stub : Stub) : Prop where
  /-- The fragment of the interface's name stands behind the leading words. -/
  name : stub.name = stub.lead ++ Text.mangle stub.interface
  /-- Whoever hands the interface out names the same class. -/
  nested : ∀ (t : SymbolTable) (d : Declaration String) (other : Stub),
    t.buildStub lead d = .ok other → ∀ m ∈ other.methods, m.nested = some stub.interface →
      nestedClass other m = stub.name
  /-- Made flat again, what stands for the interface is what it was. -/
  suffix : stub.suffix = Text.mangle stub.interface ∧ Text.flatName stub.suffix = stub.suffix
  /-- So it is if the whole name is made flat, whatever becomes of the leading words. -/
  kept : stub.suffix.toList <:+ (Text.flatName stub.name).toList
  /-- The whole name stays as it is exactly if it is a fragment. -/
  stable_iff : Text.flatName stub.name = stub.name ↔ Text.IsFragment stub.name.toList
  /-- Which it is if the leading words are one. -/
  stable : Text.IsFragment stub.lead.toList → Text.flatName stub.name = stub.name

theorem suffix_flatName_append (lead interface : String) :
    (Text.mangle interface).toList <:+ (Text.flatName (lead ++ Text.mangle interface)).toList := by
  have fragment := Text.isFragment_mangle interface
  rw [Text.flatName_eq_mangle, Text.toList_mangle (lead ++ _), String.toList_append,
    List.flatMap_append, Text.flatMap_expandMark_eq_self fragment.drawn]
  exact Text.suffix_joinPlain_append fragment _

theorem goesBy_of_buildStub {t : SymbolTable} {lead : Value} {d : Declaration String} {stub : Stub}
    (made : t.buildStub lead d = .ok stub) : GoesBy lead stub := by
  have named := SymbolTable.isNamed_of_buildStub made
  have name : stub.name = stub.lead ++ Text.mangle stub.interface := by
    rw [named.name, Stub.nestedName, named.interface, Text.flatName_eq_mangle]
  have suffix : stub.suffix = Text.mangle stub.interface :=
    (String.append_right_inj stub.lead).mp name
  have stable_iff : Text.flatName stub.name = stub.name ↔ Text.IsFragment stub.name.toList := by
    rw [Text.flatName_eq_mangle]
    exact Text.mangle_eq_self_iff
  refine ⟨name, ?nested, ⟨suffix, ?again⟩, ?kept, stable_iff, ?stable⟩
  case nested =>
    intro t' e other built m _ handed
    have led : other.lead = stub.lead :=
      Option.some.inj ((SymbolTable.isNamed_of_buildStub built).lead.symm.trans named.lead)
    rw [nestedClass, handed, Option.getD_some, Stub.nestedName, led, name, Text.flatName_eq_mangle]
  case again =>
    rw [suffix, Text.flatName_eq_mangle, Text.mangle_mangle]
  case kept =>
    rw [suffix, name]
    exact suffix_flatName_append _ _
  case stable =>
    intro lead
    rw [stable_iff, name, String.toList_append]
    exact lead.append (Text.isFragment_mangle _)

/-- Every text settles into a fragment, and into the same one where it is flattened. So the classes of
doubles go by their interfaces wherever they are named. -/
theorem settles_and_goesBy :
    (∀ s : String, Text.Settles s) ∧
      ∀ (t : SymbolTable) (lead : Value) (d : Declaration String) (stub : Stub),
        t.buildStub lead d = .ok stub → GoesBy lead stub :=
  ⟨Text.settles, fun _ _ _ _ => goesBy_of_buildStub⟩

def marked : List (UnitRecord String) :=
  let declaring (name : String) (returned : SemanticType) : Declaration String :=
    { name, kind := .interface, bases := [], fields := [], isFull := true, unit := .null
      methods :=
        [{ name := "f", parameters := [], returnType := some returned, isPure := true
           isConst := false, visibility := .public }] }
  [{ name := .null, bodies := [], header := .null
     declarations :=
       [declaring "ns::_Sink<int*, A&>" (.primitive "void" false),
        declaring "ns::Source" (.reference (.named "ns::_Sink<int*, A&>" false) false)] }]

theorem settles_and_goesBy_marked :
    let t := (SymbolTable.merge marked).1
    ∃ sink source d e, t.get? "ns::_Sink<int*, A&>" = some d ∧ t.get? "ns::Source" = some e ∧
      t.buildStub (.text "Stub") d = .ok sink ∧ t.buildStub (.text "Stub") e = .ok source ∧
        Text.Settles "ns::_Sink<int*, A&>" ∧ GoesBy (.text "Stub") sink ∧
          sink.name = "Stubns_Sink_int_ptr_A_ref" ∧
            source.methods.map (nestedClass source) = [sink.name] ∧
              Text.flatName sink.name = sink.name := by
  intro t
  obtain ⟨settles, goes⟩ := settles_and_goesBy
  have built (name : String) (fits : Stub → Bool)
      (computed : ((t.get? name).bind fun d =>
        (t.buildStub (.text "Stub") d).toOption.map fits) = some true) :
      ∃ s d, t.get? name = some d ∧ t.buildStub (.text "Stub") d = .ok s ∧ fits s = true := by
    obtain ⟨d, found, made⟩ := Option.bind_eq_some_iff.mp computed
    obtain ⟨s, made, fit⟩ := Option.map_eq_some_iff.mp made
    exact ⟨s, d, found, eq_ok_of_toOption made, fit⟩
  obtain ⟨sink, d, found, made, named⟩ := built "ns::_Sink<int*, A&>"
    (fun s => s.name == "Stubns_Sink_int_ptr_A_ref" && s.lead == "Stub") (by decide +kernel)
  obtain ⟨source, e, found', made', handed⟩ := built "ns::Source"
    (fun s => s.methods.map (nestedClass s) == ["Stubns_Sink_int_ptr_A_ref"]) (by decide +kernel)
  obtain ⟨name, lead⟩ : sink.name = "Stubns_Sink_int_ptr_A_ref" ∧ sink.lead = "Stub" := by
    simpa using named
  have goesBy := goes _ _ _ _ made
  refine ⟨sink, source, d, e, found, found', made, made', settles _, goesBy, name, ?_, ?_⟩
  · rw [name]
    exact beq_iff_eq.mp handed
  · exact goesBy.stable (Text.mangle_eq_self_iff.mp (by rw [lead]; decide +kernel))

/-! ## Names apart -/

structure DeclaresOnce (symbols : Option SymbolTable) (stubs : List Stub) : Prop where
  /-- Classes and namespaces share the outermost scope. -/
  outermost : (classesIn (stubLines symbols stubs) ++ namespacesIn (stubLines symbols stubs)).Nodup
  callbacks : ∀ s ∈ stubs, (structsIn (callbacksOf symbols s)).Nodup
  /-- In an aggregate stand accessor functions and the members that they hand out. -/
  aggregates : ∀ s ∈ stubs,
    ∀ accessors ∈ [s.methods.map (·.accessor), s.returning.map (·.accessor)],
      (accessors ++ accessors.map (· ++ "_")).Nodup

/-- No name made in one way is also made in another, or for another interface. -/
structure Apart (stubs : List Stub) : Prop where
  interfaces : ∀ s ∈ stubs, ∀ s' ∈ stubs,
    Text.flatName s.interface = Text.flatName s'.interface → s.interface = s'.interface
  spaces : ∀ s ∈ stubs, ∀ s' ∈ stubs, ∀ word ∈ spaceWords,
    Text.flatName s.interface ≠ word ++ Text.flatName s'.interface
  callbacks : ∀ s ∈ stubs, ∀ m ∈ s.methods, ∀ m' ∈ s.methods, "I" ++ m.accessor ≠ m'.accessor ++ "_t"
  members : ∀ s ∈ stubs, ∀ m ∈ s.methods, ∀ m' ∈ s.methods, m.accessor ≠ m'.accessor ++ "_"

theorem word_eq_of_append_eq {v w x y : String} (first : v ∈ spaceWords) (second : w ∈ spaceWords)
    (same : v ++ x = w ++ y) : v = w := by
  simp only [spaceWords, List.mem_cons, List.not_mem_nil, or_false] at first second
  -- No two of the words begin with the same two letters.
  have letters := congrArg (fun s : String => s.toList.take 2) same
  rcases first with rfl | rfl | rfl | rfl <;> rcases second with rfl | rfl | rfl | rfl <;>
    first | rfl | simp at letters

theorem nodup_flatMap_pair {keys : List String} {f g : String → String} (distinct : keys.Nodup)
    (injF : Function.Injective f) (injG : Function.Injective g) :
    (keys.flatMap fun a => [f a, g a]).Nodup ↔ ∀ a ∈ keys, ∀ b ∈ keys, f a ≠ g b := by
  -- distinctness does not depend on the order, so one kind of names may go first
  have parts : (keys.map f ++ keys.map g).Perm (keys.flatMap fun a => [f a, g a]) := by
    rw [List.map_eq_flatMap, List.map_eq_flatMap]
    exact List.flatMap_append_perm keys (fun a => [f a]) (fun a => [g a])
  rw [← parts.nodup_iff, List.nodup_append]
  simp [List.nodup_map_iff injF, List.nodup_map_iff injG, distinct]

theorem nodup_outermost (lead : String) {suffixes : List String} :
    (suffixes.map (lead ++ ·)
        ++ suffixes.flatMap fun x => spaceWords.map fun word => lead ++ word ++ x).Nodup ↔
      suffixes.Nodup ∧ ∀ x ∈ suffixes, ∀ y ∈ suffixes, ∀ word ∈ spaceWords, x ≠ word ++ y := by
  have led {x y : String} : lead ++ x = lead ++ y ↔ x = y := String.append_right_inj lead
  rw [List.nodup_append, List.nodup_map_iff fun x y => led.mp]
  constructor
  · rintro ⟨distinct, _, apart⟩
    refine ⟨distinct, fun x first y second word known same => ?_⟩
    apply apart (lead ++ x) (List.mem_map_of_mem first) (lead ++ word ++ y)
    · exact List.mem_flatMap.mpr ⟨y, second, List.mem_map_of_mem known⟩
    · rw [same, String.append_assoc]
  · rintro ⟨distinct, apart⟩
    refine ⟨distinct, List.nodup_flatMap.mpr ⟨fun x _ => ?_, ?_⟩, ?_⟩
    · refine List.Nodup.map_on (fun v first w second same => ?_) (by decide)
      rw [String.append_assoc, String.append_assoc, led] at same
      exact word_eq_of_append_eq first second same
    · -- The word is the same wherever two names are, and then the rest is.
      refine distinct.imp fun {x y} other name first second => other ?_
      obtain ⟨v, known, rfl⟩ := List.mem_map.mp first
      obtain ⟨w, known', same⟩ := List.mem_map.mp second
      rw [String.append_assoc, String.append_assoc, led] at same
      obtain rfl := word_eq_of_append_eq known' known same
      exact ((String.append_right_inj w).mp same).symm
    · rintro _ first _ second rfl
      obtain ⟨x, member, rfl⟩ := List.mem_map.mp first
      obtain ⟨y, member', named⟩ := List.mem_flatMap.mp second
      obtain ⟨word, known, same⟩ := List.mem_map.mp named
      rw [String.append_assoc, led] at same
      exact apart x member y member' word known same.symm

/-- Doubles that one generator may have: led by the same words, one for each interface, and each with
accessors of its own for its methods. -/
structure AreKindred (stubs : List Stub) : Prop where
  lead : ∃ lead, ∀ s ∈ stubs, s.lead = lead
  suffix : ∀ s ∈ stubs, s.suffix = Text.flatName s.interface
  interfaces : (stubs.map (·.interface)).Nodup
  accessors : ∀ s ∈ stubs, (s.methods.map (·.accessor)).Nodup

theorem AreKindred.outermost_iff {stubs : List Stub} (kindred : AreKindred stubs)
    (symbols : Option SymbolTable) :
    (classesIn (stubLines symbols stubs) ++ namespacesIn (stubLines symbols stubs)).Nodup ↔
      (∀ s ∈ stubs, ∀ s' ∈ stubs,
        Text.flatName s.interface = Text.flatName s'.interface → s.interface = s'.interface) ∧
      ∀ s ∈ stubs, ∀ s' ∈ stubs, ∀ word ∈ spaceWords,
        Text.flatName s.interface ≠ word ++ Text.flatName s'.interface := by
  -- with one lead for all, names differ as far as what follows on it differs
  obtain ⟨lead, led⟩ := kindred.lead
  let suffixes := (stubs.map (·.interface)).map Text.flatName
  have names : stubs.map (·.name) = suffixes.map (lead ++ ·) := by
    simp only [suffixes, List.map_map]
    exact List.map_congr_left fun s member => by
      simp [Stub.name, led s member, kindred.suffix s member]
  have spaces : stubs.flatMap (·.spaces) =
      suffixes.flatMap fun x => spaceWords.map fun word => lead ++ word ++ x := by
    simp only [suffixes, List.flatMap_map]
    exact List.flatMap_congr fun s member => by
      simp [Stub.spaces, led s member, kindred.suffix s member]
  rw [classesIn_stubLines, namespacesIn_stubLines, names, spaces, nodup_outermost]
  refine and_congr ?_ (by simp [suffixes])
  rw [List.nodup_map_iff_inj_on kindred.interfaces]
  simp

theorem AreKindred.declaresOnce_iff {stubs : List Stub} (kindred : AreKindred stubs)
    (symbols : Option SymbolTable) : DeclaresOnce symbols stubs ↔ Apart stubs := by
  have underscored : Function.Injective (· ++ "_") := fun _ _ => (String.append_left_inj _).mp
  have members (accessors : List String) (distinct : accessors.Nodup) :
      (accessors ++ accessors.map (· ++ "_")).Nodup ↔
        ∀ a ∈ accessors, ∀ b ∈ accessors, a ≠ b ++ "_" := by
    simp [List.nodup_append, distinct, List.nodup_map_iff underscored]
  have structs (s : Stub) (member : s ∈ stubs) :
      (structsIn (callbacksOf symbols s)).Nodup ↔
        ∀ m ∈ s.methods, ∀ m' ∈ s.methods, "I" ++ m.accessor ≠ m'.accessor ++ "_t" := by
    rw [structsIn_callbacksOf, nodup_flatMap_pair (kindred.accessors s member)
      (fun _ _ => (String.append_right_inj _).mp) fun _ _ => (String.append_left_inj _).mp]
    simp
  constructor
  · intro once
    obtain ⟨interfaces, spaces⟩ := (kindred.outermost_iff symbols).mp once.outermost
    refine ⟨interfaces, spaces, fun s member => (structs s member).mp (once.callbacks s member), ?_⟩
    intro s member
    have apart := (members _ (kindred.accessors s member)).mp
      (once.aggregates s member _ List.mem_cons_self)
    simpa using apart
  · intro apart
    refine ⟨(kindred.outermost_iff symbols).mpr ⟨apart.interfaces, apart.spaces⟩,
      fun s member => (structs s member).mpr (apart.callbacks s member), ?_⟩
    intro s member accessors listed
    -- aggregates of statics have a part of the accessors only, so what holds of all is enough
    have own : accessors.Sublist (s.methods.map (·.accessor)) := by
      simp only [List.mem_cons, List.not_mem_nil, or_false] at listed
      rcases listed with rfl | rfl
      · exact .refl _
      · exact List.filter_sublist.map _
    refine (members _ ((kindred.accessors s member).sublist own)).mpr ?_
    intro a first b second
    obtain ⟨m, known, rfl⟩ := List.mem_map.mp (own.subset first)
    obtain ⟨m', known', rfl⟩ := List.mem_map.mp (own.subset second)
    exact apart.members s member m known m' known'

/-! ## What generators keep -/

namespace Generator

variable {g after : Generator}

structure IsBuilt (g : Generator) : Prop where
  distinct : g.memo.keys.Nodup
  entries : ∀ name s, g.memo.get? name = some s →
    ∃ d, d.name = name ∧ g.table.buildStub g.lead d = .ok s

theorem Change.isBuilt (change : Change g after) (built : g.IsBuilt) : after.IsBuilt := by
  cases change with
  | report =>
    refine ⟨built.distinct, fun name s known => ?_⟩
    obtain ⟨d, named, made⟩ := built.entries name s known
    exact ⟨d, named, (g.buildStub_reportFlat _ _ _).trans made⟩
  | @keep d stub _ made =>
    refine ⟨Assoc.nodup_keys_set built.distinct, fun name s known => ?_⟩
    rcases Assoc.get?_set_cases known with ⟨rfl, rfl⟩ | old
    · exact ⟨d, rfl, made⟩
    · exact built.entries name s old

theorem Changes.isBuilt (changes : Changes g after) (built : g.IsBuilt) : after.IsBuilt := by
  induction changes with
  | refl => exact built
  | tail _ change ih => exact change.isBuilt ih

theorem IsBuilt.areKindred (built : g.IsBuilt) : AreKindred g.stubs := by
  have made {s : Stub} (listed : s ∈ g.stubs) :
      ∃ d, g.table.buildStub g.lead d = .ok s ∧ SymbolTable.IsNamed g.lead d s := by
    obtain ⟨name, known⟩ := mem_stubs.mp listed
    obtain ⟨d, _, made⟩ := built.entries name s known
    exact ⟨d, made, SymbolTable.isNamed_of_buildStub made⟩
  constructor
  case lead =>
    refine ⟨(g.lead.text?).getD "", fun s listed => ?_⟩
    obtain ⟨d, _, named⟩ := made listed
    rw [named.lead, Option.getD_some]
  case suffix =>
    intro s listed
    obtain ⟨d, _, named⟩ := made listed
    rw [named.interface]
    exact (String.append_right_inj s.lead).mp named.name
  case interfaces =>
    have kept : ∀ name s, g.memo.get? name = some s → s.interface = name := by
      intro name s known
      obtain ⟨d, rfl, made⟩ := built.entries name s known
      exact (SymbolTable.isNamed_of_buildStub made).interface
    rw [map_interface_stubs kept]
    exact g.perm_interfaceOrder.nodup_iff.mpr built.distinct
  case accessors =>
    intro s listed
    obtain ⟨d, made, _⟩ := made listed
    exact SymbolTable.nodup_accessors made

/-- The doubles that any requests leave are declared without repetition exactly if their names are
apart. -/
theorem declaresOnce_iff_apart (t : SymbolTable) (classification : Option Classification)
    (lead : Value) (requests : List Request) (symbols : Option SymbolTable) :
    let stubs := (serveAll ⟨t, classification, lead, []⟩ requests).stubs
    DeclaresOnce symbols stubs ↔ Apart stubs := by
  have start : IsBuilt ⟨t, classification, lead, []⟩ := ⟨.nil, by simp⟩
  exact ((changes_serveAll _ requests).isBuilt start).areKindred.declaresOnce_iff symbols

def flattened : List (UnitRecord String) :=
  let f : Method String :=
    { name := "f", parameters := [], returnType := some (.primitive "void" false), isPure := true
      isConst := false, visibility := .public }
  let declaring (name : String) : Declaration String :=
    { name, kind := .interface, bases := [], methods := [f], fields := [], isFull := true
      unit := .text "u" }
  [{ name := .text "u", declarations := [declaring "a::B", declaring "a_B"], bodies := []
     header := .null }]

theorem not_declaresOnce_flattened :
    let g := serveAll ⟨(SymbolTable.merge flattened).1, none, .text "Stub", []⟩
      [.single "a::B", .single "a_B"]
    ¬ DeclaresOnce (some g.table) g.stubs := by
  intro g once
  have distinct := once.outermost
  rw [classesIn_stubLines] at distinct
  have known (name : String) (here : (g.memo.get? name).isSome) :
      ∃ s ∈ g.stubs, g.memo.get? name = some s := by
    obtain ⟨s, found⟩ := Option.isSome_iff_exists.mp here
    exact ⟨s, mem_stubs.mpr ⟨name, found⟩, found⟩
  obtain ⟨s, listed, first⟩ := known "a::B" (by decide +kernel)
  obtain ⟨s', listed', second⟩ := known "a_B" (by decide +kernel)
  have same : (g.memo.get? "a::B").map (·.name) = (g.memo.get? "a_B").map (·.name) := by
    decide +kernel
  have apart : g.memo.get? "a::B" ≠ g.memo.get? "a_B" := by decide +kernel
  rw [first, second] at same apart
  exact apart (congrArg some (List.inj_on_of_nodup_map (List.nodup_append.mp distinct).1 listed
    listed' (Option.some.inj same)))

end Generator
end Understudy
