import Mathlib.Data.List.Nodup
import Understudy.Proofs.Stub.Build
import Understudy.Stub.Header

/-! Which methods a double overrides.

Of methods spelled alike a double takes the first. A header writes each type as the scope of its
declaration resolves it, and two scopes may spell one type differently or two types alike. Main
statement: when the methods taken are those that have to be overridden, each once.
-/

set_option autoImplicit false

namespace Understudy

open Understudy.Cpp

/-- A method that stands in a list before all others that are spelled like it. -/
def ComesFirst (entries : List Inherited) (x : Inherited) : Prop :=
  ∃ before after, entries = before ++ x :: after ∧ ∀ y ∈ before, y.2.signature ≠ x.2.signature

theorem ComesFirst.mem {entries : List Inherited} {x : Inherited} (first : ComesFirst entries x) :
    x ∈ entries := by
  obtain ⟨before, after, rfl, _⟩ := first
  exact List.mem_append_right _ List.mem_cons_self

theorem comesFirst_cons {entry : Inherited} {rest : List Inherited} {x : Inherited} :
    ComesFirst (entry :: rest) x ↔
      x = entry ∨ entry.2.signature ≠ x.2.signature ∧ ComesFirst rest x := by
  constructor
  · rintro ⟨before, after, split, apart⟩
    cases before with
    | nil =>
      cases split
      exact .inl rfl
    | cons head before =>
      cases split
      obtain ⟨other, apart⟩ := List.forall_mem_cons.mp apart
      exact .inr ⟨other, before, after, rfl, apart⟩
  · rintro (rfl | ⟨other, before, after, rfl, apart⟩)
    · exact ⟨[], rest, rfl, by simp⟩
    · exact ⟨entry :: before, after, rfl, List.forall_mem_cons.mpr ⟨other, apart⟩⟩

theorem exists_comesFirst {entries : List Inherited} {x : Inherited} (member : x ∈ entries) :
    ∃ y, ComesFirst entries y ∧ y.2.signature = x.2.signature := by
  induction entries with
  | nil => cases member
  | cons entry rest ih =>
    by_cases same : entry.2.signature = x.2.signature
    · exact ⟨entry, comesFirst_cons.mpr (.inl rfl), same⟩
    · rcases List.mem_cons.mp member with rfl | later
      · exact absurd rfl same
      · obtain ⟨y, first, spelled⟩ := ih later
        refine ⟨y, comesFirst_cons.mpr (.inr ⟨?_, first⟩), spelled⟩
        rwa [spelled]

theorem mem_firstBySignature {known : List Signature} {entries : List Inherited} {x : Inherited} :
    x ∈ firstBySignature known entries ↔ x.2.signature ∉ known ∧ ComesFirst entries x := by
  induction entries generalizing known with
  | nil => simp [firstBySignature, ComesFirst]
  | cons entry rest ih =>
    obtain ⟨declaring, m⟩ := entry
    unfold firstBySignature
    rw [comesFirst_cons]
    split
    -- A known spelling is left out, and it is none of those asked about.
    next old =>
      rw [List.contains_iff_mem] at old
      rw [ih]
      apply and_congr_right
      intro new
      constructor
      · intro first
        exact .inr ⟨fun same => new (same ▸ old), first⟩
      · rintro (rfl | ⟨_, first⟩)
        · exact absurd old new
        · exact first
    next new =>
      rw [List.contains_iff_mem] at new
      rw [List.mem_cons, ih, List.mem_append, List.mem_singleton, not_or]
      constructor
      · rintro (rfl | ⟨⟨fresh, other⟩, first⟩)
        · exact ⟨new, .inl rfl⟩
        · exact ⟨fresh, .inr ⟨Ne.symm other, first⟩⟩
      · rintro ⟨fresh, rfl | ⟨other, first⟩⟩
        · exact .inl rfl
        · exact .inr ⟨⟨fresh, Ne.symm other⟩, first⟩

theorem nodup_firstBySignature (known : List Signature) (entries : List Inherited) :
    ((firstBySignature known entries).map (·.2.signature)).Nodup := by
  induction entries generalizing known with
  | nil => exact .nil
  | cons entry rest ih =>
    obtain ⟨declaring, m⟩ := entry
    unfold firstBySignature
    split
    next => exact ih known
    next =>
      rw [List.map_cons, List.nodup_cons]
      refine ⟨?_, ih _⟩
      intro again
      obtain ⟨x, later, same⟩ := List.mem_map.mp again
      exact (mem_firstBySignature.mp later).1 (by simp [same])

namespace SymbolTable

/-- The signature of a method with its types written as its declaration resolves them. -/
def resolvedSignature (t : SymbolTable) (x : Inherited) : Signature :=
  ⟨x.2.name, x.2.parameters.map fun p => spellIn (some t) x.1 p.type, x.2.isConst⟩

/-- A pure ordinary method of a declaration or of its bases. -/
def IsRequired (t : SymbolTable) (d : Declaration String) (x : Inherited) : Prop :=
  ∃ b, t.Inherits d b ∧ b.name = x.1 ∧ x.2 ∈ b.methods ∧ x.2.isPure = true ∧
    isOrdinary b.name x.2 = true

/-- All methods that have to be overridden, in the order in which a walk meets them. -/
def required (t : SymbolTable) (d : Declaration String) : List Inherited :=
  (t.collected d).filter fun (owner, m) => isOrdinary owner m

/-- The resolved signatures of the methods of a double, in order. -/
def overridden (t : SymbolTable) (stub : Stub) : List Signature :=
  stub.methods.map fun m => t.resolvedSignature (m.declaring, m.method)

/-- A double overrides all that has to be, and nothing twice. -/
structure OverridesExactly (t : SymbolTable) (d : Declaration String) (stub : Stub) : Prop where
  nodup : (t.overridden stub).Nodup
  complete : ∀ s, s ∈ t.overridden stub ↔ ∃ x, t.IsRequired d x ∧ t.resolvedSignature x = s

/-- Spellings tell the methods of an interface apart as far as its double needs them to. -/
structure TellsApart (t : SymbolTable) (d : Declaration String) : Prop where
  /-- Two methods that come first and resolve alike are spelled alike. -/
  apart : ∀ x y, ComesFirst (t.required d) x → ComesFirst (t.required d) y →
    t.resolvedSignature x = t.resolvedSignature y → x.2.signature = y.2.signature
  /-- Each method resolves like one that comes first. -/
  covered : ∀ x, t.IsRequired d x →
    ∃ y, ComesFirst (t.required d) y ∧ t.resolvedSignature y = t.resolvedSignature x

variable {t : SymbolTable} {d : Declaration String}

theorem mem_required (arena : t.IsArena) (declared : d ∈ t.declarations) {x : Inherited} :
    x ∈ t.required d ↔ t.IsRequired d x := by
  obtain ⟨owner, m⟩ := x
  unfold required IsRequired
  rw [List.mem_filter, mem_collected]
  constructor
  · rintro ⟨⟨b, visited, rfl, member, isPure⟩, ordinary⟩
    exact ⟨b, (arena.mem_lineage declared).mp visited, rfl, member, isPure, ordinary⟩
  · rintro ⟨b, path, rfl, member, isPure, ordinary⟩
    exact ⟨⟨b, (arena.mem_lineage declared).mpr path, rfl, member, isPure⟩, ordinary⟩

theorem mem_methods_flatten {x : Inherited} :
    x ∈ (t.flatten d).methods ↔ ComesFirst (t.required d) x := by
  change x ∈ firstBySignature [] (t.required d) ↔ _
  rw [mem_firstBySignature]
  exact and_iff_right List.not_mem_nil

/-- Where methods are spelled alike exactly if they resolve alike, nothing goes amiss. -/
theorem TellsApart.of_faithful (arena : t.IsArena) (declared : d ∈ t.declarations)
    (faithful : ∀ x y, t.IsRequired d x → t.IsRequired d y →
      (x.2.signature = y.2.signature ↔ t.resolvedSignature x = t.resolvedSignature y)) :
    t.TellsApart d := by
  have needed {x} (first : ComesFirst (t.required d) x) : t.IsRequired d x :=
    (mem_required arena declared).mp first.mem
  constructor
  · intro x y first second same
    exact (faithful x y (needed first) (needed second)).mpr same
  · intro x required
    obtain ⟨y, first, same⟩ := exists_comesFirst ((mem_required arena declared).mpr required)
    exact ⟨y, first, (faithful y x (needed first) required).mp same⟩

theorem IsDouble.overridden_eq {stub : Stub} (double : t.IsDouble d stub) :
    t.overridden stub = (t.flatten d).methods.map t.resolvedSignature := by
  rw [← double.methods, List.map_map]
  rfl

theorem IsDouble.overridesExactly_iff (arena : t.IsArena) (declared : d ∈ t.declarations)
    {stub : Stub} (double : t.IsDouble d stub) :
    t.OverridesExactly d stub ↔ t.TellsApart d := by
  have spelledApart := nodup_firstBySignature [] (t.required d)
  have distinct : (t.flatten d).methods.Nodup := spelledApart.of_map _
  constructor
  · rintro ⟨nodup, complete⟩
    rw [double.overridden_eq] at nodup complete
    constructor
    · intro x y first second same
      have equal := List.inj_on_of_nodup_map nodup (mem_methods_flatten.mpr first)
        (mem_methods_flatten.mpr second) same
      rw [equal]
    · intro x needed
      obtain ⟨y, taken, same⟩ := List.mem_map.mp ((complete _).mpr ⟨x, needed, rfl⟩)
      exact ⟨y, mem_methods_flatten.mp taken, same⟩
  · intro tells
    constructor
    · rw [double.overridden_eq, List.nodup_map_iff_inj_on distinct]
      intro x first y second same
      -- Methods that are kept are told apart by their spellings already.
      apply List.inj_on_of_nodup_map spelledApart first second
      exact tells.apart x y (mem_methods_flatten.mp first) (mem_methods_flatten.mp second) same
    · intro s
      rw [double.overridden_eq, List.mem_map]
      constructor
      · rintro ⟨x, taken, rfl⟩
        exact ⟨x, (mem_required arena declared).mp (mem_methods_flatten.mp taken).mem, rfl⟩
      · rintro ⟨x, needed, rfl⟩
        obtain ⟨y, first, same⟩ := tells.covered x needed
        exact ⟨y, mem_methods_flatten.mpr first, same⟩

/-- The double of a declared interface overrides exactly what it has to where spellings tell its
methods apart, and nowhere else. They do where no two scopes spell one type differently or two
types alike. -/
theorem overridesExactly_iff_tellsApart (built : t.Built) (spelled : t.IsSpelled) (lead : String)
    (declared : d ∈ t.declarations) :
    ∃ stub, t.buildStub (.text lead) d = .ok stub ∧
      (t.OverridesExactly d stub ↔ t.TellsApart d) ∧
        ((∀ x y, t.IsRequired d x → t.IsRequired d y →
          (x.2.signature = y.2.signature ↔ t.resolvedSignature x = t.resolvedSignature y)) →
            t.OverridesExactly d stub) := by
  have arena := built.isArena
  obtain ⟨stub, made, double⟩ := exists_buildStub arena spelled lead declared
  have exact_iff := double.overridesExactly_iff arena declared
  refine ⟨stub, made, exact_iff, ?_⟩
  intro faithful
  exact exact_iff.mpr (.of_faithful arena declared faithful)

/-! ## Two scopes -/

def pointing (name : String) : Method String :=
  { name := "f"
    parameters := [⟨.pointer (.named name false) false, .null⟩]
    returnType := some (.primitive "void" false)
    isPure := true, isConst := false, visibility := .public }

def declaring (name : String) (kind : DeclKind) (bases : List String)
    (methods : List (Method String)) : Declaration String :=
  { name, kind, bases, methods, fields := [], isFull := true, unit := .null }

def bothSides : Declaration String :=
  declaring "Both" .interface ["a::Left", "b::Right"] []

def restated : Declaration String :=
  declaring "Derived" .interface ["a::Left"] [pointing "a::T"]

def leftSide : Declaration String := declaring "a::Left" .interface [] [pointing "T"]

def rivalScopes : List (UnitRecord String) :=
  [{ name := .null
     declarations :=
       [declaring "a::T" .ordinary [] [], declaring "b::T" .ordinary [] [], leftSide,
        declaring "b::Right" .interface [] [pointing "T"], bothSides, restated]
     bodies := [], header := .null }]

/-- The one double misses a method, and the other one has a method twice. -/
theorem not_overridesExactly_rivalScopes :
    let t := (merge rivalScopes).1
    (∃ stub, t.get? "Both" = some bothSides ∧ t.buildStub (.text "Stub") bothSides = .ok stub ∧
        ¬ t.OverridesExactly bothSides stub) ∧
      ∃ stub, t.get? "Derived" = some restated ∧ t.buildStub (.text "Stub") restated = .ok stub ∧
        ¬ t.OverridesExactly restated stub := by
  intro t
  have arena : t.IsArena := (built_merge rivalScopes).isArena
  have spelled : t.IsSpelled := by
    unfold IsSpelled
    decide +kernel
  have both : t.get? "Both" = some bothSides := by decide +kernel
  have derived : t.get? "Derived" = some restated := by decide +kernel
  obtain ⟨stub, made, double⟩ := exists_buildStub arena spelled "Stub" (mem_of_get? both)
  obtain ⟨other, madeOther, doubleOther⟩ :=
    exists_buildStub arena spelled "Stub" (mem_of_get? derived)
  refine ⟨⟨stub, both, made, ?missed⟩, ⟨other, derived, madeOther, ?doubled⟩⟩
  case missed =>
    intro exact
    have needed : t.IsRequired bothSides ("b::Right", pointing "T") :=
      (mem_required arena (mem_of_get? both)).mp (by decide +kernel)
    have taken := (exact.complete _).mpr ⟨_, needed, rfl⟩
    rw [double.overridden_eq] at taken
    revert taken
    decide +kernel
  case doubled =>
    intro exact
    have nodup := exact.nodup
    rw [doubleOther.overridden_eq] at nodup
    revert nodup
    decide +kernel

def joined : Declaration String :=
  declaring "Joined" .interface ["a::Again", "a::Left"] [pointing "b::T"]

def sharedScope : List (UnitRecord String) :=
  [{ name := .null
     declarations :=
       [declaring "a::T" .ordinary [] [], declaring "b::T" .ordinary [] [], leftSide,
        declaring "a::Again" .interface ["a::Left"] [pointing "T"], joined]
     bodies := [], header := .null }]

/-- Three methods have to be overridden, and two of them are one. -/
theorem overridesExactly_joined :
    let t := (merge sharedScope).1
    joined ∈ t.declarations ∧ t.IsSpelled ∧ (t.required joined).length = 3 ∧
      ∃ stub, t.buildStub (.text "Stub") joined = .ok stub ∧ t.OverridesExactly joined stub := by
  intro t
  have built : t.Built := built_merge sharedScope
  have spelled : t.IsSpelled := by
    unfold IsSpelled
    decide +kernel
  have declared : joined ∈ t.declarations := by decide +kernel
  obtain ⟨stub, made, _, faithful⟩ :=
    overridesExactly_iff_tellsApart built spelled "Stub" declared
  refine ⟨declared, spelled, by decide +kernel, stub, made, faithful ?_⟩
  have alike : ∀ x ∈ t.required joined, ∀ y ∈ t.required joined,
      (x.2.signature = y.2.signature ↔ t.resolvedSignature x = t.resolvedSignature y) := by
    decide +kernel
  intro x y first second
  exact alike x ((mem_required built.isArena declared).mpr first)
    y ((mem_required built.isArena declared).mpr second)

end SymbolTable
end Understudy
