import Understudy.Proofs.Cpp.Reading
import Understudy.Proofs.Symbols.Scoping
import Understudy.Stub.Header

/-! Types as a header writes them.

A header stands outside all scopes, so the base of a type is written by the full name of what its own
scope makes of it. Main statement: what is written is read as the type meant, and means the same
outside all scopes as the type did inside its own.
-/

set_option autoImplicit false

namespace Understudy

open Understudy.Cpp

namespace Cpp

/-- Words with scope marks between them and none before them, that are no word with a meaning of its
own. -/
structure IsFullName (name : String) : Prop where
  chain : Token.IsChain name.toList
  unbuiltin : name ∉ primitiveWords
  unqualifying : name ∉ qualifierWords
  unelaborated : name ∉ elaboratedWords

theorem IsFullName.relative {name : String} (full : IsFullName name) (rest : String) :
    name ≠ qualify "" rest := by
  rintro rfl
  obtain ⟨c, later, same, starts⟩ := full.chain.starts
  have marked : (qualify "" rest).toList = ':' :: ':' :: rest.toList := by simp [qualify]
  rw [marked] at same
  rw [← (List.cons.inj same).1] at starts
  exact absurd starts (by decide)

namespace SemanticType

theorem rename_rename (f g : String → String) (t : SemanticType) :
    (t.rename f).rename g = t.rename fun name => g (f name) := by
  induction t with
  | pointer inner _ ih | reference inner _ ih => simp only [rename, ih]
  | _ => rfl

theorem rename_eq_self {t : SemanticType} (f : String → String) (unnamed : t.target? = none) :
    t.rename f = t := by
  induction t with
  | named name => cases unnamed
  | pointer inner _ ih | reference inner _ ih => rw [rename, ih unnamed]
  | _ => rfl

@[simp] theorem target?_rename (f : String → String) (t : SemanticType) :
    (t.rename f).target? = t.target?.map f := by
  induction t with
  | pointer inner _ ih | reference inner _ ih => exact ih
  | _ => rfl

@[simp] theorem layers_rename (f : String → String) (t : SemanticType) :
    (t.rename f).layers = t.layers := by
  induction t with
  | pointer inner _ ih | reference inner _ ih => simp only [rename, layers, ih]
  | _ => rfl

@[simp] theorem isConst_base_rename (f : String → String) (t : SemanticType) :
    (t.rename f).base.isConst = t.base.isConst := by
  induction t with
  | pointer inner _ ih | reference inner _ ih => exact ih
  | _ => rfl

theorem IsWritten.rename {t : SemanticType} {f : String → String} (written : t.IsWritten)
    (full : ∀ name, f name = name ∨ IsFullName (f name)) : (t.rename f).IsWritten := by
  induction written with
  | primitive isConst some builtin => exact .primitive isConst some builtin
  | @named name isConst qualified unbuiltin unqualifying unelaborated =>
    rw [SemanticType.rename]
    rcases full name with same | full
    · rw [same]
      exact .named isConst qualified unbuiltin unqualifying unelaborated
    · exact .named isConst (.inl full.chain) full.unbuiltin full.unqualifying full.unelaborated
  | pointer isConst _ ih => exact .pointer isConst ih
  | reference _ ih => exact .reference ih

end SemanticType
end Cpp

namespace SymbolTable

variable {t : SymbolTable} {name context : String}

/-- The full name of what a name stands for in a context, or the name itself where it stands for
nothing. -/
def fullName (t : SymbolTable) (context name : String) : String :=
  ((t.resolve? name context).map (·.name)).getD name

def HasFullNames (t : SymbolTable) : Prop := ∀ name ∈ t.names, IsFullName name

theorem fullName_of_resolve? {d : Declaration String} (found : t.resolve? name context = some d) :
    t.fullName context name = d.name := by
  simp [fullName, found]

theorem fullName_of_unresolved (missing : t.resolve? name context = none) :
    t.fullName context name = name := by
  simp [fullName, missing]

theorem HasFullNames.fullName (named : t.HasFullNames) (context name : String) :
    t.fullName context name = name ∨ IsFullName (t.fullName context name) := by
  cases found : t.resolve? name context with
  | none => exact .inl (fullName_of_unresolved found)
  | some d =>
    rw [fullName_of_resolve? found]
    exact .inr (named d.name (mem_names (mem_of_resolve? found)))

theorem spellIn_eq (t : SymbolTable) (context : String) (type : SemanticType) :
    spellIn (some t) context type = (type.rename (t.fullName context)).spelling := rfl

theorem resolve?_fullName (arena : t.IsArena) (named : t.HasFullNames) (context name : String) :
    t.resolve? (t.fullName context name) "" = t.resolve? name context := by
  cases found : t.resolve? name context with
  | none =>
    rw [fullName_of_unresolved found]
    exact resolve?_outermost_eq_none found
  | some d =>
    have declared := mem_of_resolve? found
    rw [fullName_of_resolve? found]
    exact resolve?_outermost arena declared (named d.name (mem_names declared)).relative

theorem fullName_fullName (arena : t.IsArena) (named : t.HasFullNames) (context name : String) :
    t.fullName "" (t.fullName context name) = t.fullName context name := by
  have same := resolve?_fullName arena named context name
  cases found : t.resolve? name context with
  | none =>
    rw [found] at same
    exact fullName_of_unresolved same
  | some d =>
    rw [found] at same
    rw [fullName_of_resolve? same, fullName_of_resolve? found]

/-- What is written for a type in a context is read as the type with its name made a full one, with
all its layers and consts, those of references too. Outside all scopes that type is written the same again, and its name
stands for what the name of the type stands for in the context. -/
theorem parseType_spellIn (built : t.Built) (named : t.HasFullNames) {type : SemanticType}
    (written : type.IsWritten) (context : String) :
    let s := spellIn (some t) context type
    ∃ read, parseType s = .ok read ∧ read = type.rename (t.fullName context) ∧
      read.layers = type.layers ∧ read.base.isConst = type.base.isConst ∧
        (type.target? = none → read = type) ∧
          (∀ name, type.target? = some name → read.target? = some (t.fullName context name) ∧
            t.resolve? (t.fullName context name) "" = t.resolve? name context) ∧
            spellIn (some t) "" read = s := by
  intro s
  have arena := built.isArena
  have renamed := written.rename (named.fullName context)
  refine ⟨_, renamed.parseType_spelling, rfl, SemanticType.layers_rename _ _,
    SemanticType.isConst_base_rename _ _, ?same, ?names, ?again⟩
  case same =>
    intro unnamed
    exact SemanticType.rename_eq_self _ unnamed
  case names =>
    intro name target
    refine ⟨?_, resolve?_fullName arena named context name⟩
    rw [SemanticType.target?_rename, target]
    rfl
  case again =>
    rw [spellIn_eq, SemanticType.rename_rename]
    simp only [fullName_fullName arena named]
    rfl

def homonyms : List (UnitRecord String) :=
  let forward (name : String) : Declaration String :=
    { name, kind := .ordinary, bases := [], methods := [], fields := [], isFull := false,
      unit := .null }
  [{ name := .null
     declarations := ["a::T", "T"].map forward
     bodies := [], header := .null }]

/-- From inside a scope its own declaration is written, and not the one outside that has the name. -/
theorem parseType_spellIn_homonyms :
    let t := (merge homonyms).1
    let type := SemanticType.reference (.pointer (.named "T" true) true) false
    t.Built ∧ t.HasFullNames ∧ type.IsWritten ∧
      spellIn (some t) "a::User" type = "const a::T* const&" ∧
        ∃ read, parseType "const a::T* const&" = .ok read ∧ read.target? = some "a::T" ∧
          (t.resolve? "a::T" "").map (·.name) = (t.resolve? "T" "a::User").map (·.name) := by
  intro t type
  have built : t.Built := built_merge homonyms
  have words {name : String} (word : Token.isWord name.toList = true)
      (plain : name ∉ primitiveWords ∧ name ∉ qualifierWords ∧ name ∉ elaboratedWords) :
      IsFullName name :=
    ⟨.single word, plain.1, plain.2.1, plain.2.2⟩
  have within : IsFullName "a::T" := by
    have chain : Token.IsChain ("a".toList ++ scopeMark ++ "T".toList) :=
      .cons (by decide) (.single (by decide))
    exact ⟨chain, by decide, by decide, by decide⟩
  have named : t.HasFullNames := by
    have names : t.names = ["a::T", "T"] := by decide +kernel
    rw [HasFullNames, names]
    simpa [within] using words (by decide) (by decide)
  have written : type.IsWritten :=
    .reference (.pointer true (.named true (.inl (.single (by decide))) (by decide) (by decide)
      (by decide)))
  have spelled : spellIn (some t) "a::User" type = "const a::T* const&" := by decide +kernel
  have inside : t.fullName "a::User" "T" = "a::T" := by decide +kernel
  obtain ⟨read, parsed, -, -, -, -, names, -⟩ := parseType_spellIn built named written "a::User"
  obtain ⟨target, stands⟩ := names "T" rfl
  rw [spelled] at parsed
  rw [inside] at target stands
  exact ⟨built, named, written, spelled, read, parsed, target, by rw [stands]⟩

end SymbolTable
end Understudy
