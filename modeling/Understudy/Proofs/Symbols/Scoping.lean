import Understudy.Proofs.Symbols.Adding

/-! What a name stands for, said without indices.

Main statement: resolution finds what a scan of all declarations finds. A name is looked for in the
scopes around it from the inside out, then globally, and then among all names that end in it. The
index by short name loses none of these and has none twice.
-/

set_option autoImplicit false

namespace Understudy

open Understudy.Cpp

namespace Cpp

/-- Whether a name begins with one colon only. No part of a qualified name does. -/
def beginsWithLoneColon (name : String) : Bool :=
  name.toList.head? == some ':' && (absolute? name).isNone

theorem absolute?_eq_some {name rest : String} :
    absolute? name = some rest ↔ name = qualify "" rest := by
  unfold absolute? qualify
  rw [← String.toList_inj]
  constructor
  · intro led
    split at led
    next found =>
      cases led
      obtain ⟨rest, same⟩ := List.isPrefixOf_iff_prefix.mp found
      simp [← same, scopeMark]
    next => cases led
  · intro same
    rw [if_pos (by simp [same, scopeMark])]
    simp [same]

theorem endsInScoped_iff {name suffix : String} :
    endsInScoped name suffix = true ↔ ∃ scope, name = qualify scope suffix := by
  unfold endsInScoped qualify
  rw [List.isSuffixOf_iff_suffix]
  constructor
  · rintro ⟨scope, same⟩
    refine ⟨String.ofList scope, ?_⟩
    rw [← String.toList_inj]
    simp [← same]
  · rintro ⟨scope, rfl⟩
    exact ⟨scope.toList, by simp⟩

/-! ## Short names -/

theorem cutLast_scopeMark {s : List Char} (plain : s.head? ≠ some ':')
    (unscoped : Text.cutLast scopeMark s = none) :
    Text.cutLast scopeMark (scopeMark ++ s) = some ([], s) := by
  -- A mark from the second colon on would need another colon behind it.
  have second : Text.cutLast scopeMark (':' :: s) = none := by
    rw [Text.cutLast, unscoped]
    cases s with
    | nil => rfl
    | cons c rest =>
      have other : c ≠ ':' := by simpa using plain
      simp [scopeMark, Ne.symm other]
  change Text.cutLast scopeMark (':' :: ':' :: s) = _
  rw [Text.cutLast, second]
  simp [scopeMark]

theorem cutLast_scopeMark_isSome (s : List Char) :
    (Text.cutLast scopeMark (scopeMark ++ s)).isSome := by
  change (Text.cutLast scopeMark (':' :: ':' :: s)).isSome
  rw [Text.cutLast]
  cases Text.cutLast scopeMark (':' :: s) with
  | some parts => rfl
  | none => simp [scopeMark]

theorem head?_ne_colon {name : String} (proper : beginsWithLoneColon name = false)
    (unscoped : Text.cutLast scopeMark name.toList = none) : name.toList.head? ≠ some ':' := by
  intro colon
  simp only [beginsWithLoneColon, colon, BEq.rfl, Bool.true_and] at proper
  obtain ⟨rest, led⟩ := Option.isSome_iff_exists.mp (by simpa using proper)
  have marked := cutLast_scopeMark_isSome rest.toList
  rw [absolute?_eq_some.mp led] at unscoped
  simp only [qualify, String.toList_append] at unscoped
  rw [show ("" : String).toList ++ "::".toList ++ rest.toList = scopeMark ++ rest.toList from rfl]
    at unscoped
  simp [unscoped] at marked

theorem shortName_qualify {scope name : String} (proper : beginsWithLoneColon name = false) :
    shortName (qualify scope name) = shortName name := by
  have marked : (qualify scope name).toList = scope.toList ++ (scopeMark ++ name.toList) := by
    simp [qualify, scopeMark]
  -- The last mark lies in the name itself, or is the one that was put before it.
  unfold shortName
  rw [marked]
  cases cut : Text.cutLast scopeMark name.toList with
  | some parts =>
    obtain ⟨before, last⟩ := parts
    rw [← List.append_assoc, Text.cutLast_append_left _ cut]
  | none =>
    rw [Text.cutLast_append_left _ (cutLast_scopeMark (head?_ne_colon proper cut) cut)]
    simp

/-! ## Scopes -/

/-- A scope with the scopes around it, innermost first. -/
def scopesAround (scope : String) : List String :=
  if scope.isEmpty then []
  else
    scope ::
      match _h : parentScope? scope with
      | some parent => scopesAround parent
      | none => []
termination_by scope.length
decreasing_by exact length_parentScope_lt _h

theorem scopesAround_outermost : scopesAround "" = [] := by
  rw [scopesAround]
  rfl

end Cpp

theorem scopesFrom_eq {fuel : Nat} {scope : String} (enough : scope.length < fuel) :
    scopesFrom fuel scope = scopesAround scope := by
  induction fuel generalizing scope with
  | zero => omega
  | succ fuel ih =>
    unfold scopesFrom scopesAround
    split
    next => rfl
    next =>
      congr 1
      split
      next parent found =>
        have shorter := length_parentScope_lt found
        rw [ih (by omega)]
        split <;> simp_all
      next missing => split <;> simp_all

theorem scopesOf_eq (context : String) : scopesOf context = scopesAround context :=
  scopesFrom_eq (Nat.lt_succ_self _)

namespace SymbolTable

variable {t : SymbolTable} {name context : String}

def Declares (t : SymbolTable) (name : String) (d : Declaration String) : Prop :=
  d ∈ t.declarations ∧ d.name = name

/-- No scope around a context has a name. -/
def IsOutside (t : SymbolTable) (name context : String) : Prop :=
  ∀ scope ∈ scopesAround context, ∀ d, ¬ t.Declares (qualify scope name) d

/-- A declaration is the only one whose name ends in a given one. -/
def OnlyEndsIn (t : SymbolTable) (name : String) (d : Declaration String) : Prop :=
  (∃ scope, t.Declares (qualify scope name) d) ∧
    ∀ other scope, t.Declares (qualify scope name) other → other = d

/-- What a name stands for in a context, if anything. -/
inductive Denotes (t : SymbolTable) (name context : String) : Option (Declaration String) → Prop where
  | absolute {rest : String} {d : Declaration String} :
      name = qualify "" rest → t.Declares rest d → Denotes t name context (some d)
  | absent {rest : String} :
      name = qualify "" rest → (∀ d, ¬ t.Declares rest d) → Denotes t name context none
  /-- The innermost scope that has the name decides. -/
  | inside {inner outer : List String} {scope : String} {d : Declaration String} :
      (∀ rest, name ≠ qualify "" rest) → scopesAround context = inner ++ scope :: outer →
        (∀ s ∈ inner, ∀ other, ¬ t.Declares (qualify s name) other) →
          t.Declares (qualify scope name) d → Denotes t name context (some d)
  | global {d : Declaration String} :
      (∀ rest, name ≠ qualify "" rest) → t.IsOutside name context → t.Declares name d →
        Denotes t name context (some d)
  | ending {d : Declaration String} :
      (∀ rest, name ≠ qualify "" rest) → t.IsOutside name context →
        (∀ other, ¬ t.Declares name other) → t.OnlyEndsIn name d → Denotes t name context (some d)
  | unclear :
      (∀ rest, name ≠ qualify "" rest) → t.IsOutside name context →
        (∀ other, ¬ t.Declares name other) → (∀ d, ¬ t.OnlyEndsIn name d) →
          Denotes t name context none

/-! ## The index by short name -/

theorem Built.shortNames_eq (built : t.Built) (short : String) :
    (t.shortNames.get? short).getD [] = t.names.filter (shortName · == short) := by
  induction built with
  | empty => rfl
  | @add t after d stored built added ih =>
    have adds := built.isArena.adds added
    have grown := adds.names_eq built.isArena
    cases adds with
    | appends new =>
      rw [grown]
      simp only [new, Option.isSome_none, Bool.false_eq_true, if_false, List.filter_append, ← ih]
      change (Assoc.get? (t.shortNames.set d.short _) short).getD [] = _
      by_cases same : short = d.short
      · subst same
        simp [Declaration.short]
      · have apart : shortName d.name ≠ short := Ne.symm same
        rw [Assoc.get?_set_ne _ _ same]
        simp [apart]
    | passes known | takesOver _ known | differs known =>
      rw [grown, known, Option.isSome_some, if_pos rfl]
      exact ih
  | @addBody t b _ ih =>
    have adds := t.addsBody b
    generalize (t.addBody b).1 = after at adds ⊢
    cases adds <;> exact ih
  | @noteHeader t d header _ ih =>
    obtain ⟨headers, same⟩ := t.exists_headers_noteHeader d header
    rw [same]
    exact ih
  | diagnose ds _ ih => exact ih

theorem Built.filter_shortNames (built : t.Built) (proper : beginsWithLoneColon name = false) :
    ((t.shortNames.get? (shortName name)).getD []).filter (endsInScoped · name) =
      t.names.filter (endsInScoped · name) := by
  rw [built.shortNames_eq, List.filter_filter]
  apply List.filter_congr
  intro declared _
  rw [Bool.and_eq_left_iff_imp]
  intro ends
  obtain ⟨scope, rfl⟩ := endsInScoped_iff.mp ends
  rw [shortName_qualify proper, beq_self_eq_true]

theorem IsArena.declares_iff (arena : t.IsArena) {d : Declaration String} :
    t.Declares name d ↔ t.get? name = some d :=
  arena.get?_eq_some.symm

theorem IsArena.not_declares_iff (arena : t.IsArena) :
    (∀ d, ¬ t.Declares name d) ↔ t.get? name = none := by
  simp only [arena.declares_iff, Option.eq_none_iff_forall_ne_some, ne_eq]

theorem onlyEndsIn_iff (arena : t.IsArena) {d : Declaration String} :
    t.OnlyEndsIn name d ↔
      d ∈ t.declarations ∧ t.names.filter (endsInScoped · name) = [d.name] := by
  -- The scan has no name twice, so it is one name exactly if that is its only member.
  rw [← List.perm_singleton, List.perm_ext_iff_of_nodup (arena.nodup_names.filter _) (by simp)]
  simp only [List.mem_filter, endsInScoped_iff, List.mem_singleton]
  constructor
  · rintro ⟨⟨scope, declared, named⟩, only⟩
    refine ⟨declared, fun other => ⟨?_, ?_⟩⟩
    · rintro ⟨member, within, rfl⟩
      obtain ⟨found, declares, same⟩ := List.mem_map.mp member
      rw [← only found within ⟨declares, same⟩, same]
    · rintro rfl
      exact ⟨mem_names declared, scope, named⟩
  · rintro ⟨declared, scan⟩
    obtain ⟨_, scope, named⟩ := (scan d.name).mpr rfl
    refine ⟨⟨scope, declared, named⟩, ?_⟩
    intro other within ⟨declares, same⟩
    have named := (scan other.name).mp ⟨mem_names declares, within, same⟩
    have found := arena.get?_eq_some.mpr ⟨declares, named⟩
    rw [arena.get?_eq_some.mpr ⟨declared, rfl⟩] at found
    exact (Option.some.inj found).symm

theorem Built.bind_uniqueByShortName? (built : t.Built) (proper : beginsWithLoneColon name = false)
    (unknown : t.get? name = none) {d : Declaration String} :
    (t.uniqueByShortName? name).bind t.get? = some d ↔ t.OnlyEndsIn name d := by
  have arena := built.isArena
  have scanned : ((t.shortNames.get? (shortName name)).getD []).filter
      (fun c => c == name || endsInScoped c name) = t.names.filter (endsInScoped · name) := by
    -- The name itself would be let through as well, but it is not declared.
    rw [← built.filter_shortNames proper, built.shortNames_eq]
    apply List.filter_congr
    intro c listed
    obtain ⟨other, declared, same⟩ := List.mem_map.mp (List.mem_filter.mp listed).1
    have apart : c ≠ name := by
      rintro rfl
      rw [arena.get?_eq_some.mpr ⟨declared, same⟩] at unknown
      cases unknown
    simp [apart]
  rw [onlyEndsIn_iff arena]
  simp only [uniqueByShortName?, scanned]
  constructor
  · intro found
    split at found
    next only =>
      obtain ⟨declared, rfl⟩ := arena.get?_eq_some.mp found
      exact ⟨declared, only⟩
    next => cases found
  · rintro ⟨declared, only⟩
    rw [only]
    exact arena.get?_eq_some.mpr ⟨declared, rfl⟩

/-! ## Resolution -/

theorem absolute?_eq_none : absolute? name = none ↔ ∀ rest, name ≠ qualify "" rest := by
  simp only [Option.eq_none_iff_forall_ne_some, ne_eq, absolute?_eq_some]

theorem resolve?_of_absolute {rest : String} (written : name = qualify "" rest) :
    t.resolve? name context = t.get? rest := by
  unfold resolve?
  rw [absolute?_eq_some.mpr written]

theorem resolve?_of_relative (relative : ∀ rest, name ≠ qualify "" rest) :
    t.resolve? name context =
      ((scopesAround context).findSome? fun scope => t.get? (qualify scope name)).or
        ((t.get? name).or ((t.uniqueByShortName? name).bind t.get?)) := by
  unfold resolve?
  rw [absolute?_eq_none.mpr relative, scopesOf_eq]

theorem resolve?_outermost (arena : t.IsArena) {d : Declaration String}
    (declared : d ∈ t.declarations) (relative : ∀ rest, d.name ≠ qualify "" rest) :
    t.resolve? d.name "" = some d := by
  rw [resolve?_of_relative relative, scopesAround_outermost, arena.get?_eq_some.mpr ⟨declared, rfl⟩]
  rfl

theorem resolve?_outermost_eq_none (missing : t.resolve? name context = none) :
    t.resolve? name "" = none := by
  cases led : absolute? name with
  | some rest =>
    have written := absolute?_eq_some.mp led
    rwa [resolve?_of_absolute written] at missing ⊢
  | none =>
    have relative := absolute?_eq_none.mp led
    rw [resolve?_of_relative relative] at missing ⊢
    rw [scopesAround_outermost]
    exact (Option.or_eq_none_iff.mp missing).2

theorem IsArena.isOutside_iff (arena : t.IsArena) :
    t.IsOutside name context ↔
      ((scopesAround context).findSome? fun scope => t.get? (qualify scope name)) = none := by
  simp only [IsOutside, arena.not_declares_iff, List.findSome?_eq_none_iff]

theorem Built.denotes_resolve? (built : t.Built) (proper : beginsWithLoneColon name = false) :
    t.Denotes name context (t.resolve? name context) := by
  have arena := built.isArena
  cases led : absolute? name with
  | some rest =>
    have written := absolute?_eq_some.mp led
    rw [resolve?_of_absolute written]
    cases found : t.get? rest with
    | some d => exact .absolute written (arena.declares_iff.mpr found)
    | none => exact .absent written (arena.not_declares_iff.mpr found)
  | none =>
    have relative := absolute?_eq_none.mp led
    rw [resolve?_of_relative relative]
    cases inside : (scopesAround context).findSome? fun scope => t.get? (qualify scope name) with
    | some d =>
      obtain ⟨inner, scope, outer, split, found, missing⟩ := List.findSome?_eq_some_iff.mp inside
      exact .inside relative split
        (fun s member => arena.not_declares_iff.mpr (missing s member))
        (arena.declares_iff.mpr found)
    | none =>
      have outside := arena.isOutside_iff.mpr inside
      cases global : t.get? name with
      | some d => exact .global relative outside (arena.declares_iff.mpr global)
      | none =>
        have unknown := arena.not_declares_iff.mpr global
        have last := fun d => built.bind_uniqueByShortName? (d := d) proper global
        cases ending : (t.uniqueByShortName? name).bind t.get? with
        | some d => exact .ending relative outside unknown ((last d).mp ending)
        | none =>
          refine .unclear relative outside unknown fun d only => ?_
          rw [(last d).mpr only] at ending
          cases ending

theorem Built.resolve?_eq (built : t.Built) (proper : beginsWithLoneColon name = false)
    {found : Option (Declaration String)} (denotes : t.Denotes name context found) :
    t.resolve? name context = found := by
  have arena := built.isArena
  cases denotes with
  | absolute written declares =>
    rw [resolve?_of_absolute written, arena.declares_iff.mp declares]
  | absent written missing =>
    rw [resolve?_of_absolute written, arena.not_declares_iff.mp missing]
  | @inside inner outer scope d relative split missing declares =>
    have first : t.get? (qualify scope name) = some d := arena.declares_iff.mp declares
    have passed : ∀ s ∈ inner, t.get? (qualify s name) = none :=
      fun s member => arena.not_declares_iff.mp (missing s member)
    rw [resolve?_of_relative relative,
      List.findSome?_eq_some_iff.mpr ⟨inner, scope, outer, split, first, passed⟩, Option.some_or]
  | global relative outside declares =>
    rw [resolve?_of_relative relative, arena.isOutside_iff.mp outside,
      arena.declares_iff.mp declares, Option.none_or, Option.some_or]
  | ending relative outside unknown only =>
    have global := arena.not_declares_iff.mp unknown
    rw [resolve?_of_relative relative, arena.isOutside_iff.mp outside, global,
      (built.bind_uniqueByShortName? proper global).mpr only, Option.none_or, Option.none_or]
  | unclear relative outside unknown unclear =>
    have global := arena.not_declares_iff.mp unknown
    rw [resolve?_of_relative relative, arena.isOutside_iff.mp outside, global, Option.none_or,
      Option.none_or, Option.eq_none_iff_forall_ne_some]
    intro d found
    exact unclear d ((built.bind_uniqueByShortName? proper global).mp found)

/-- Resolution finds what the name denotes and nothing else, and the index leaves out or doubles no
name that a scan of the arena would find. -/
theorem Built.resolve?_eq_iff_denotes (built : t.Built) (name context : String)
    (proper : beginsWithLoneColon name = false) :
    (∀ found, t.resolve? name context = found ↔ t.Denotes name context found) ∧
      ((t.shortNames.get? (shortName name)).getD []).filter (endsInScoped · name) =
        t.names.filter (endsInScoped · name) := by
  refine ⟨fun found => ⟨?_, built.resolve?_eq proper⟩, built.filter_shortNames proper⟩
  rintro rfl
  exact built.denotes_resolve? proper

def scattered : List (UnitRecord String) :=
  let forward (name : String) : Declaration String :=
    { name, kind := .ordinary, bases := [], methods := [], fields := [], isFull := false,
      unit := .null }
  [{ name := .null
     declarations := ["a::T", "a::b::C", "x::y::U", "z::U"].map forward
     bodies := [], header := .null }]

/-- A scope decides before all endings do, and two endings decide nothing. -/
theorem resolve?_eq_iff_denotes_scattered :
    let t := (merge scattered).1
    t.Built ∧ (["T", "U", "y::U"].all fun name => !beginsWithLoneColon name) = true ∧
      (∃ d, t.Denotes "T" "a::b::C" (some d) ∧ d.name = "a::T") ∧
        t.Denotes "U" "a" none ∧ ∃ d, t.Denotes "y::U" "" (some d) ∧ d.name = "x::y::U" := by
  intro t
  have built : t.Built := built_merge scattered
  have inside := (built.resolve?_eq_iff_denotes "T" "a::b::C" (by decide)).1
  have unclear := (built.resolve?_eq_iff_denotes "U" "a" (by decide)).1
  have ending := (built.resolve?_eq_iff_denotes "y::U" "" (by decide)).1
  have one : (t.resolve? "T" "a::b::C").map (·.name) = some "a::T" := by decide +kernel
  have two : (t.resolve? "y::U" "").map (·.name) = some "x::y::U" := by decide +kernel
  obtain ⟨d, foundD, named⟩ := Option.map_eq_some_iff.mp one
  obtain ⟨e, foundE, called⟩ := Option.map_eq_some_iff.mp two
  exact ⟨built, by decide, ⟨d, (inside _).mp foundD, named⟩,
    (unclear _).mp (by decide +kernel), e, (ending _).mp foundE, called⟩

end SymbolTable
end Understudy
