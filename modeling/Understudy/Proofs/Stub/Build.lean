import Understudy.Proofs.Outcome
import Understudy.Proofs.Stub.Walk
import Understudy.Stub.Generator

/-! The double of an interface that is declared.

A double is built whenever the types of methods name what they point to by texts. It takes all
methods that flattening finds, and hands out only interfaces that have doubles of their own.
-/

set_option autoImplicit false

namespace Understudy

open Understudy.Cpp

@[simp] theorem Accessor.length_assign (methods : List (Method String)) (used : List String)
    (ms : List (Method String)) : (assign methods used ms).length = ms.length := by
  induction ms generalizing used with
  | nil => rfl
  | cons m rest ih =>
    unfold assign
    split <;> simp [ih]

@[simp] theorem Accessor.length_names (methods : List (Method String)) :
    (names methods).length = methods.length :=
  length_assign _ _ _

theorem firstBySignature_sublist (known : List Signature) (ms : List Inherited) :
    (firstBySignature known ms).Sublist ms := by
  induction ms generalizing known with
  | nil => exact .slnil
  | cons entry rest ih =>
    obtain ⟨declaring, m⟩ := entry
    unfold firstBySignature
    split
    · exact (ih known).cons _
    · exact (ih _).cons_cons _

namespace SymbolTable

variable {t : SymbolTable}

/-- The types of all methods name their bases by texts, as documents are to write them. -/
def IsSpelled (t : SymbolTable) : Prop :=
  ∀ d ∈ t.declarations, ∀ m ∈ d.methods,
    m.isSpelled = true ∧ m.returnType.all (·.isSpelled) = true

/-- A name is that of an interface that is fully defined. -/
def IsFullInterface (t : SymbolTable) (name : String) : Prop :=
  ∃ d ∈ t.declarations, d.name = name ∧ d.isInterface = true ∧ d.isFull = true

/-! ## Diagnostics change no double -/

theorem walkFrom_diagnose (t : SymbolTable) (ds : Diagnostics) (fuel : Nat) (w : Walk)
    (d : Declaration String) :
    walkFrom { t with diagnostics := ds } fuel w d = t.walkFrom fuel w d := by
  induction fuel generalizing w d with
  | zero => rfl
  | succ fuel ih =>
    rw [walkFrom_succ, walkFrom_succ]
    have same : enter { t with diagnostics := ds } fuel = t.enter fuel := by
      funext d w base
      simp only [enter, ih]
      rfl
    rw [same]

theorem flatten_diagnose (t : SymbolTable) (ds : Diagnostics) (d : Declaration String) :
    flatten { t with diagnostics := ds } d = t.flatten d := by
  unfold flatten walk
  rw [walkFrom_diagnose]

theorem buildStub_diagnose (t : SymbolTable) (ds : Diagnostics) (lead : Value)
    (d : Declaration String) :
    buildStub { t with diagnostics := ds } lead d = t.buildStub lead d := by
  unfold buildStub
  rw [flatten_diagnose]
  rfl

/-! ## What flattening collects -/

def collected (t : SymbolTable) (d : Declaration String) : List Inherited :=
  (t.lineage d).flatMap pureMethods

theorem mem_collected {d : Declaration String} {owner : String} {m : Method String} :
    (owner, m) ∈ t.collected d ↔
      ∃ b ∈ t.lineage d, b.name = owner ∧ m ∈ b.methods ∧ m.isPure = true := by
  unfold collected
  rw [List.mem_flatMap]
  apply exists_congr
  intro b
  simp only [pureMethods, List.mem_map, List.mem_filter, Prod.mk.injEq]
  constructor
  · rintro ⟨visited, _, ⟨member, isPure⟩, rfl, rfl⟩
    exact ⟨visited, rfl, member, isPure⟩
  · rintro ⟨visited, rfl, member, isPure⟩
    exact ⟨visited, m, ⟨member, isPure⟩, rfl, rfl⟩

theorem IsArena.returns (arena : t.IsArena) {b : Declaration String} (declared : b ∈ t.declarations)
    {m : Method String} (member : m ∈ b.methods) (proper : mayLackReturn b.name m = false) :
    ∃ type, m.returnType = some type := by
  have sound := arena.sound b declared
  unfold malformation? at sound
  have fault := (Option.or_eq_none_iff.mp (Option.or_eq_none_iff.mp sound).2).2
  have own := List.findSome?_eq_none_iff.mp fault m member
  cases returned : m.returnType with
  | some type => exact ⟨type, rfl⟩
  | none => simp [methodFault?, returned, proper] at own

theorem isFullInterface_of_returnKind {declaring name : String} {type : SemanticType}
    (handed : (t.returnKind declaring type).2 = some name) : t.IsFullInterface name := by
  cases type with
  | primitive builtin isConst =>
    unfold returnKind at handed
    dsimp only at handed
    split at handed <;> cases handed
  | named => cases handed
  | misnamed => cases handed
  | pointer inner isConst | reference inner isConst =>
    cases inner with
    | named used isConst =>
      unfold returnKind at handed
      cases target : t.resolve? used declaring with
      | none => simp [target] at handed
      | some b =>
        by_cases fit : (b.isInterface && b.isFull) = true
        · simp only [target, fit] at handed
          cases handed
          rw [Bool.and_eq_true] at fit
          exact ⟨b, mem_of_resolve? target, rfl, fit.1, fit.2⟩
        · simp [target, fit] at handed
    | _ => cases handed

/-! ## Building -/

theorem not_handsOutUnfit {type : SemanticType} (spelled : type.isSpelled = true) :
    handsOutUnfit type = false := by
  unfold handsOutUnfit
  split <;> simp_all [SemanticType.isSpelled, SemanticType.misname?]

structure IsDouble (t : SymbolTable) (d : Declaration String) (stub : Stub) : Prop where
  interface : stub.interface = d.name
  methods : stub.methods.map (fun m => (m.declaring, m.method)) = (t.flatten d).methods
  passthrough : stub.passthrough.map (fun m => (m.declaring, m.method)) =
    (t.flatten d).passthrough
  nested : ∀ name ∈ stub.nested, t.IsFullInterface name

theorem isSpelled_flatten (arena : t.IsArena) (spelled : t.IsSpelled) {d : Declaration String}
    (declared : d ∈ t.declarations) : (t.flatten d).isSpelled = true := by
  unfold flatten
  rw [List.all_eq_true]
  intro encounter met
  cases encounter with
  | missing => rfl
  | visited b =>
    have visited : b ∈ t.lineage d := List.mem_filterMap.mpr ⟨_, met, rfl⟩
    have known := declared_of_inherits declared ((arena.mem_lineage declared).mp visited)
    simp only [Encounter.isSpelled, List.all_eq_true]
    intro m member
    exact (spelled b known m (List.mem_filter.mp member).1).1

theorem returns_of_collected (arena : t.IsArena) (spelled : t.IsSpelled) {d : Declaration String}
    (declared : d ∈ t.declarations) {owner : String} {m : Method String}
    (member : (owner, m) ∈ t.collected d) (proper : mayLackReturn owner m = false) :
    ∃ type, m.returnType = some type ∧ handsOutUnfit type = false := by
  obtain ⟨b, visited, rfl, own, _⟩ := mem_collected.mp member
  have known := declared_of_inherits declared ((arena.mem_lineage declared).mp visited)
  obtain ⟨type, returned⟩ := arena.returns known own proper
  have fit := (spelled b known m own).2
  rw [returned] at fit
  exact ⟨type, returned, not_handsOutUnfit fit⟩

theorem instrument_ok {declaring : String} {m : Method String} {type : SemanticType}
    (returned : m.returnType = some type) (fit : handsOutUnfit type = false) (accessor : String) :
    ∃ made, t.instrument (declaring, m) accessor = .ok made ∧
      (made.declaring, made.method) = (declaring, m) ∧
        ∀ name, made.nested = some name → t.IsFullInterface name := by
  refine ⟨⟨accessor, declaring, m, type, (t.returnKind declaring type).1,
    (t.returnKind declaring type).2⟩, ?_, rfl, fun name => isFullInterface_of_returnKind⟩
  unfold instrument
  simp only [returned, fit]
  rfl

theorem exists_instrumented (arena : t.IsArena) (spelled : t.IsSpelled) {d : Declaration String}
    (declared : d ∈ t.declarations) {accessors : List String}
    (matching : accessors.length = (t.flatten d).methods.length) :
    ∃ made, ((t.flatten d).methods.zip accessors).mapM (fun (m, accessor) =>
        t.instrument m accessor) = .ok made ∧
      made.map (fun m => (m.declaring, m.method)) = (t.flatten d).methods ∧
        ∀ m ∈ made, ∀ name, m.nested = some name → t.IsFullInterface name := by
  have each : ∀ entry ∈ (t.flatten d).methods.zip accessors,
      ∃ made, t.instrument entry.1 entry.2 = .ok made ∧
        (made.declaring, made.method) = entry.1 ∧
          ∀ name, made.nested = some name → t.IsFullInterface name := by
    rintro ⟨⟨owner, m⟩, accessor⟩ member
    obtain ⟨found, ordinary⟩ := List.mem_filter.mp
      ((firstBySignature_sublist _ _).subset (List.of_mem_zip member).1)
    have proper : mayLackReturn owner m = false := by
      simp only [isOrdinary, Option.isNone_iff_eq_none] at ordinary
      simp [mayLackReturn, ordinary]
    obtain ⟨type, returned, fit⟩ := returns_of_collected arena spelled declared found proper
    exact instrument_ok returned fit accessor
  obtain ⟨made, built, same, fit⟩ := mapM_ok each
  rw [List.map_fst_zip (Nat.le_of_eq matching.symm)] at same
  exact ⟨made, built, same, fit⟩

theorem exists_passthrough (arena : t.IsArena) (spelled : t.IsSpelled) {d : Declaration String}
    (declared : d ∈ t.declarations) :
    ∃ passed, (t.flatten d).passthrough.mapM passThrough = .ok passed ∧
      passed.map (fun m => (m.declaring, m.method)) = (t.flatten d).passthrough := by
  have each : ∀ entry ∈ (t.flatten d).passthrough, ∃ made, passThrough entry = .ok made ∧
      (made.declaring, made.method) = id entry ∧ True := by
    rintro ⟨owner, m⟩ member
    obtain ⟨found, assignment⟩ := List.mem_filter.mp ((firstBySignature_sublist _ _).subset member)
    have proper : mayLackReturn owner m = false := by
      simp only [beq_iff_eq] at assignment
      simp [mayLackReturn, assignment]
    obtain ⟨type, returned, _⟩ := returns_of_collected arena spelled declared found proper
    refine ⟨⟨owner, m, type⟩, ?_, rfl, trivial⟩
    simp only [passThrough, returned]
  obtain ⟨passed, built, same, _⟩ := mapM_ok each
  rw [List.map_id] at same
  exact ⟨passed, built, same⟩

theorem exists_buildStub (arena : t.IsArena) (spelled : t.IsSpelled) (lead : String)
    {d : Declaration String} (declared : d ∈ t.declarations) :
    ∃ stub, t.buildStub (.text lead) d = .ok stub ∧ t.IsDouble d stub := by
  have matching : (Accessor.names ((t.flatten d).methods.map (·.2))).length =
      (t.flatten d).methods.length := by
    simp
  obtain ⟨methods, made, same, fit⟩ := exists_instrumented arena spelled declared matching
  obtain ⟨passthrough, passed, assignments⟩ := exists_passthrough arena spelled declared
  refine ⟨⟨d.name, lead, Text.flatName d.name, methods, passthrough,
    (methods.filterMap (·.nested)).eraseDups, (t.flatten d).unresolved⟩, ?built, rfl, same,
    assignments, ?nested⟩
  case built =>
    unfold buildStub
    simp only [isSpelled_flatten arena spelled declared, made, passed]
    rfl
  case nested =>
    intro name member
    obtain ⟨m, held, handed⟩ := List.mem_filterMap.mp (List.mem_eraseDups.mp member)
    exact fit m held name handed

theorem isDouble_of_buildStub (arena : t.IsArena) (spelled : t.IsSpelled) {lead : String}
    {d : Declaration String} (declared : d ∈ t.declarations) {stub : Stub}
    (made : t.buildStub (.text lead) d = .ok stub) : t.IsDouble d stub := by
  obtain ⟨other, again, double⟩ := exists_buildStub arena spelled lead declared
  rw [made] at again
  cases again
  exact double

structure IsNamed (lead : Value) (d : Declaration String) (stub : Stub) : Prop where
  interface : stub.interface = d.name
  lead : lead.text? = some stub.lead
  name : stub.name = stub.nestedName d.name
  nested : stub.nested = (stub.methods.filterMap (·.nested)).eraseDups

theorem isNamed_of_buildStub {lead : Value} {d : Declaration String} {stub : Stub}
    (made : t.buildStub lead d = .ok stub) : IsNamed lead d stub := by
  unfold buildStub at made
  dsimp only at made
  split at made
  next => cases made
  next =>
    obtain ⟨methods, _, made⟩ := exists_of_bind_eq_ok made
    obtain ⟨passthrough, _, made⟩ := exists_of_bind_eq_ok made
    split at made
    next text led =>
      cases made
      exact ⟨rfl, led, rfl, rfl⟩
    next => cases made

end SymbolTable
end Understudy
