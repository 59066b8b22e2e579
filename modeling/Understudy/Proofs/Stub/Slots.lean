import Understudy.Proofs.Cpp.Acceptance
import Understudy.Proofs.Stub.Accessors

/-! What the slots of a double hold.

A slot is set up without a value and assigned to later, so its type may be neither a reference nor
constant, nor may it point to a reference. What a slot keeps is the type of a parameter or of a
result with one layer or one const taken off. Main statement: this is enough for types that were read
from spellings exactly if no mark stands behind an ampersand.
-/

set_option autoImplicit false

namespace Understudy

namespace Cpp

/-! ## References behind other layers -/

namespace SemanticType

/-- Whether somewhere in the type a pointer points to a reference. -/
def pointsToReference : SemanticType → Bool
  | .primitive .. | .named .. | .misnamed .. => false
  | .pointer inner _ => inner.isReference || inner.pointsToReference
  | .reference inner _ => inner.pointsToReference

/-- Whether some layer of the type covers a reference. -/
def coversReference : SemanticType → Bool
  | .primitive .. | .named .. | .misnamed .. => false
  | .pointer inner _ | .reference inner _ => inner.isReference || inner.coversReference

/-- What has the type can be set up without a value and assigned to. -/
structure IsAssignable (t : SemanticType) : Prop where
  notReference : t.isReference = false
  notConst : t.isConst = false
  addresses : t.pointsToReference = false

@[simp] theorem isReference_stripConst (t : SemanticType) :
    t.stripConst.isReference = t.isReference := by
  cases t <;> rfl

@[simp] theorem isConst_stripConst (t : SemanticType) : t.stripConst.isConst = false :=
  isConst_setConst false t

@[simp] theorem pointsToReference_stripConst (t : SemanticType) :
    t.stripConst.pointsToReference = t.pointsToReference := by
  cases t <;> rfl

@[simp] theorem isReference_setConst (c : Bool) (t : SemanticType) :
    (t.setConst c).isReference = t.isReference := by
  cases t <;> rfl

@[simp] theorem coversReference_setConst (c : Bool) (t : SemanticType) :
    (t.setConst c).coversReference = t.coversReference := by
  cases t <;> rfl

/-- The layer over the outermost reference that is covered is a pointer, unless it is a reference
that covers nothing else. -/
theorem pointsToReference_eq {t : SemanticType} (notReference : t.isReference = false) :
    t.pointsToReference = t.coversReference := by
  induction t with
  | primitive | named | misnamed => rfl
  | reference => cases notReference
  | pointer inner _ ih =>
    cases covered : inner.isReference with
    | true => simp [pointsToReference, coversReference, covered]
    | false => simp [pointsToReference, coversReference, covered, ih covered]

theorem isAssignable_stripConst {t : SemanticType} :
    t.stripConst.IsAssignable ↔ t.isReference = false ∧ t.coversReference = false := by
  constructor
  · rintro ⟨notReference, _, addresses⟩
    rw [isReference_stripConst] at notReference
    rw [pointsToReference_stripConst, pointsToReference_eq notReference] at addresses
    exact ⟨notReference, addresses⟩
  · rintro ⟨notReference, covers⟩
    exact ⟨by simpa using notReference, by simp,
      by simpa [pointsToReference_eq notReference] using covers⟩

theorem isAssignable_pointer {inner : SemanticType} :
    (pointer inner false).IsAssignable ↔ (inner.isReference || inner.coversReference) = false := by
  have same : (pointer inner false).pointsToReference = (pointer inner false).coversReference :=
    pointsToReference_eq rfl
  exact ⟨fun fit => same.symm.trans fit.addresses, fun covers => ⟨rfl, rfl, same.trans covers⟩⟩

end SemanticType

/-! ## Marks behind an ampersand -/

def marks : List Token := [.star, .ampersand]

def MarksReference (tokens : List Token) : Prop := ∃ mark ∈ marks, [.ampersand, mark].Sublist tokens

theorem marksReference_cons {token : Token} {rest : List Token} :
    MarksReference (token :: rest) ↔
      (token = .ampersand ∧ ∃ mark ∈ marks, mark ∈ rest) ∨ MarksReference rest := by
  simp only [MarksReference, List.cons_sublist_cons', List.singleton_sublist, and_or_left, exists_or]
  rw [or_comm]
  refine or_congr_left ⟨?_, ?_⟩
  · rintro ⟨mark, isMark, rfl, later⟩
    exact ⟨rfl, mark, isMark, later⟩
  · rintro ⟨rfl, mark, isMark, later⟩
    exact ⟨mark, isMark, rfl, later⟩

theorem marksReference_words {words : List String} {later : List Token} :
    MarksReference (words.map .word ++ later) ↔ MarksReference later := by
  induction words with
  | nil => rfl
  | cons w rest ih => simp [marksReference_cons, ih]

theorem coversReference_addLayers {text : String} {t read : SemanticType} {tokens : List Token}
    (layered : addLayers text t tokens = .ok read) :
    read.coversReference = true ↔
      (t.coversReference = true ∨ t.isReference = true ∧ ∃ mark ∈ marks, mark ∈ tokens) ∨
        MarksReference tokens := by
  induction tokens generalizing t with
  | nil =>
    cases layered
    simp [MarksReference]
  | cons token rest ih =>
    rw [marksReference_cons]
    cases token with
    | star =>
      rw [ih layered]
      simp [SemanticType.coversReference, SemanticType.isReference, marks, or_comm]
    | ampersand =>
      rw [ih layered]
      simp [SemanticType.coversReference, SemanticType.isReference, marks]
      grind
    | word w =>
      -- no word is a mark, and a const changes no layer
      have same : (∃ mark ∈ marks, mark ∈ Token.word w :: rest) ↔ ∃ mark ∈ marks, mark ∈ rest := by
        simp [marks]
      rw [same]
      unfold addLayers at layered
      split at layered
      · rw [ih layered]
        simp
      · split at layered
        · rw [ih layered]
          simp
        · cases layered

theorem coversReference_parseType {s : String} {t : SemanticType} (read : parseType s = .ok t) :
    t.coversReference = true ↔ MarksReference (Token.scan s) := by
  obtain ⟨base, based, layered⟩ := parseType_eq_ok_iff.mp read
  obtain ⟨words, split, _⟩ := exists_words_takeBase (Token.scan s)
  have bare : base.coversReference = false ∧ base.isReference = false := by
    unfold baseType at based
    split at based
    · cases based
    · split at based
      · cases based
        exact ⟨rfl, rfl⟩
      · split at based
        · cases based
          exact ⟨rfl, rfl⟩
        · cases based
  rw [coversReference_addLayers layered, bare.1, bare.2, split, marksReference_words, ← split]
  simp

end Cpp

open Understudy.Cpp

/-! ## Ways to return -/

inductive ReturnsAs : ReturnKind → SemanticType → Prop where
  | void (isConst : Bool) : ReturnsAs .void (.primitive "void" isConst)
  | value {type : SemanticType} : type.isVoid = false → type.isReference = false →
      ReturnsAs .value type
  | reference (inner : SemanticType) (isConst : Bool) :
      ReturnsAs .reference (.reference inner isConst)
  | interfaceReference (name : String) (named isConst : Bool) :
      ReturnsAs .interfaceReference (.reference (.named name named) isConst)
  | interfacePointer (name : String) (named isConst : Bool) :
      ReturnsAs .interfacePointer (.pointer (.named name named) isConst)

theorem SymbolTable.returnsAs_returnKind (t : SymbolTable) (declaring : String)
    (type : SemanticType) : ReturnsAs (t.returnKind declaring type).1 type := by
  cases type with
  | primitive name isConst =>
    unfold returnKind
    dsimp only
    split
    next void =>
      rw [beq_iff_eq.mp void]
      exact .void isConst
    next valued => exact .value (by simpa [SemanticType.isVoid] using valued) rfl
  | named | misnamed => exact .value rfl rfl
  | pointer inner isConst =>
    cases inner with
    | named name named =>
      unfold returnKind
      dsimp only
      split
      · exact .interfacePointer name named isConst
      · exact .value rfl rfl
    | _ => exact .value rfl rfl
  | reference inner isConst =>
    cases inner with
    | named name named =>
      unfold returnKind
      dsimp only
      split
      · exact .interfaceReference name named isConst
      · exact .reference _ isConst
    | _ => exact .reference _ isConst

/-! ## Slots of a method -/

namespace InstrumentedMethod

theorem isAssignable_storedType {type : SemanticType} :
    (storedType type).IsAssignable ↔ type.coversReference = false := by
  cases type with
  | reference inner isConst => exact SemanticType.isAssignable_pointer
  | primitive | named | misnamed | pointer =>
    exact SemanticType.isAssignable_stripConst.trans (and_iff_right rfl)

structure SetsUp (m : InstrumentedMethod) : Prop where
  stored : ∀ (i : Nat) (p : Parameter), m.method.parameters[i]? = some p →
    ∃ type, m.slots[i]? = some (slotName i, type) ∧ type.IsAssignable
  static : m.isVoid = false → ∃ type, m.staticType? = some type ∧ type.IsAssignable

theorem stored_iff {m : InstrumentedMethod} :
    (∀ (i : Nat) (p : Parameter), m.method.parameters[i]? = some p →
      ∃ type, m.slots[i]? = some (slotName i, type) ∧ type.IsAssignable) ↔
        ∀ p ∈ m.method.parameters, p.type.coversReference = false := by
  have slot {i : Nat} {p : Parameter} (placed : m.method.parameters[i]? = some p) :
      m.slots[i]? = some (slotName i, storedType p.type) := by
    simp [slots, List.getElem?_zipIdx, placed]
  constructor
  · intro each p member
    obtain ⟨i, placed⟩ := List.mem_iff_getElem?.mp member
    obtain ⟨type, kept, fit⟩ := each i p placed
    rw [slot placed] at kept
    cases kept
    exact isAssignable_storedType.mp fit
  · intro each i p placed
    exact ⟨_, slot placed, isAssignable_storedType.mpr (each p (List.mem_of_getElem? placed))⟩

theorem static_iff {m : InstrumentedMethod} (returns : ReturnsAs m.returnKind m.returnType) :
    (m.isVoid = false → ∃ type, m.staticType? = some type ∧ type.IsAssignable) ↔
      m.returnType.coversReference = false := by
  unfold isVoid staticType?
  generalize m.returnKind = kind, m.returnType = type at returns ⊢
  cases returns with
  | void => simp [SemanticType.coversReference]
  | value valued notReference =>
    simp [SemanticType.isAssignable_stripConst, notReference]
  | reference inner isConst =>
    simp [behind, SemanticType.isAssignable_stripConst, SemanticType.coversReference]
  | interfaceReference name named isConst =>
    simp [behind, SemanticType.isAssignable_pointer, SemanticType.coversReference]
  | interfacePointer name named isConst =>
    simp [behind, SemanticType.isAssignable_pointer, SemanticType.coversReference]

theorem setsUp_iff {m : InstrumentedMethod} (returns : ReturnsAs m.returnKind m.returnType) :
    m.SetsUp ↔ m.returnType.coversReference = false ∧
      ∀ p ∈ m.method.parameters, p.type.coversReference = false :=
  ⟨fun sets => ⟨(static_iff returns).mp sets.static, stored_iff.mp sets.stored⟩,
    fun ⟨result, given⟩ => ⟨stored_iff.mpr given, (static_iff returns).mpr result⟩⟩

end InstrumentedMethod

theorem coversReference_of_forall₂ {spellings : List String} {parameters : List Parameter}
    (read : List.Forall₂ (fun s p => parseType s = .ok p.type) spellings parameters) :
    (∀ p ∈ parameters, p.type.coversReference = false) ↔
      ∀ s ∈ spellings, ¬ MarksReference (Token.scan s) := by
  induction read with
  | nil => simp
  | cons first _ ih =>
    rw [List.forall_mem_cons, List.forall_mem_cons, ih, ← coversReference_parseType first,
      Bool.not_eq_true]

namespace SymbolTable

/-- Where the types of a method of a double were read from spellings, its slots can all be set up and
assigned to exactly if in none of these a mark stands behind an ampersand. -/
theorem setsUp_iff_of_buildStub {t : SymbolTable} {lead : Value} {d : Declaration String}
    {stub : Stub} (made : t.buildStub lead d = .ok stub) {m : InstrumentedMethod}
    (member : m ∈ stub.methods) {result : String} {given : List String}
    (returned : parseType result = .ok m.returnType)
    (read : List.Forall₂ (fun s p => parseType s = .ok p.type) given m.method.parameters) :
    m.SetsUp ↔ ∀ s ∈ result :: given, ¬ MarksReference (Token.scan s) := by
  obtain ⟨_, instrumented⟩ := exists_isInstrumented made member
  have returns := t.returnsAs_returnKind m.declaring m.returnType
  rw [instrumented.returns] at returns
  rw [InstrumentedMethod.setsUp_iff returns, coversReference_of_forall₂ read, List.forall_mem_cons,
    ← coversReference_parseType returned, Bool.not_eq_true]

def relay : Declaration String :=
  let passing (name : String) (given result : List SemanticType) : Method String :=
    { name, parameters := given.map (⟨·, .null⟩), returnType := result.head?, isPure := true
      isConst := false, visibility := .public }
  let forwarded : SemanticType := .reference (.reference (.primitive "int" false) false) false
  { name := "Relay", kind := .interface, bases := []
    methods :=
      [passing "lend"
          [.reference (.pointer (.named "Data" true) true) false,
            .pointer (.pointer (.primitive "char" false) true) true]
          [.reference (.primitive "int" true) false],
        passing "take" [forwarded] [forwarded]]
    fields := [], isFull := true, unit := .null }

def relaying : List (UnitRecord String) :=
  [{ name := .null, declarations := [relay], bodies := [], header := .null }]

def relayed : List InstrumentedMethod :=
  let of (m : Method String) (result : SemanticType) : InstrumentedMethod :=
    { accessor := m.name, declaring := "Relay", method := m, returnType := result
      returnKind := .reference, nested := none }
  relay.methods.filterMap fun m => m.returnType.map (of m)

theorem exists_relayed :
    ∃ stub, (merge relaying).1.buildStub (.text "Stub") relay = .ok stub ∧
      stub.methods = relayed := by
  have made : ((merge relaying).1.buildStub (.text "Stub") relay).toOption.map (·.methods) =
      some relayed := by
    decide +kernel
  obtain ⟨stub, built, same⟩ := Option.map_eq_some_iff.mp made
  exact ⟨stub, eq_ok_of_toOption built, same⟩

/-- A reference to a reference leaves a reference in the static slot, and a pointer to one in the slot
of the parameter. -/
theorem not_setsUp_relay :
    ∃ stub, (merge relaying).1.buildStub (.text "Stub") relay = .ok stub ∧
      ∃ m ∈ stub.methods, parseType "int&&" = .ok m.returnType ∧
        List.Forall₂ (fun s p => parseType s = .ok p.type) ["int&&"] m.method.parameters ∧
          m.slots.map (fun slot => slot.2.spelling) = ["int&*"] ∧
            m.staticType?.map (·.spelling) = some "int&" ∧ ¬ m.SetsUp := by
  obtain ⟨stub, made, methods⟩ := exists_relayed
  refine ⟨stub, made, relayed[1], ?_, rfl, .cons rfl .nil, by decide +kernel, by decide +kernel, ?_⟩
  · rw [methods]
    exact List.getElem_mem _
  · intro sets
    obtain ⟨type, held, fit⟩ := sets.static rfl
    cases held
    exact Bool.noConfusion fit.notReference

/-- References to pointers are kept by their addresses, and const pointers without their const. -/
theorem setsUp_relay :
    ∃ stub, (merge relaying).1.buildStub (.text "Stub") relay = .ok stub ∧
      ∃ m ∈ stub.methods, parseType "const int&" = .ok m.returnType ∧
        List.Forall₂ (fun s p => parseType s = .ok p.type)
          ["const Data* const&", "char* const* const"] m.method.parameters ∧
          m.slots.map (fun slot => slot.2.spelling) = ["const Data* const*", "char* const*"] ∧
            m.staticType?.map (·.spelling) = some "int" ∧ m.SetsUp := by
  obtain ⟨stub, made, methods⟩ := exists_relayed
  have member : relayed[0] ∈ stub.methods := by
    rw [methods]
    exact List.getElem_mem _
  have plain : ∀ s ∈ ["const int&", "const Data* const&", "char* const* const"],
      ¬ MarksReference (Token.scan s) := by
    unfold MarksReference
    decide +kernel
  have read : List.Forall₂ (fun s p => parseType s = .ok p.type)
      ["const Data* const&", "char* const* const"] relayed[0].method.parameters :=
    .cons rfl (.cons rfl .nil)
  have returned : parseType "const int&" = .ok relayed[0].returnType := rfl
  exact ⟨stub, made, _, member, returned, read, by decide +kernel, by decide +kernel,
    (setsUp_iff_of_buildStub made member returned read).mpr plain⟩

end SymbolTable
end Understudy
