import Mathlib.Data.List.Flatten
import Mathlib.Data.List.Perm.Basic
import Understudy.Proofs.Cpp.Canon
import Understudy.Proofs.Symbols.Merge
import Understudy.Proofs.Symbols.Scoping

/-! Units in any order.

Units whose full definitions of one name say the same may be merged in any order. Places of the arena
change, and so do the forward declarations that are kept, and nothing that is looked up by name shows
it.
-/

set_option autoImplicit false

namespace Understudy

open Understudy.Cpp

namespace SymbolTable

variable {t u : SymbolTable} {name context : String}

structure Agrees (t u : SymbolTable) : Prop where
  length : t.declarations.length = u.declarations.length
  kept : ∀ name, (t.get? name).map Declaration.gist = (u.get? name).map Declaration.gist
  unique : ∀ name, t.uniqueByShortName? name = u.uniqueByShortName? name

theorem alike_cases {a b : Option (Declaration String)}
    (same : a.map Declaration.gist = b.map Declaration.gist) :
    a = none ∧ b = none ∨ ∃ d e, a = some d ∧ b = some e ∧ d.gist = e.gist := by
  cases a with
  | none =>
    cases b with
    | none => exact .inl ⟨rfl, rfl⟩
    | some e => cases same
  | some d =>
    cases b with
    | none => cases same
    | some e => exact .inr ⟨d, e, rfl, rfl, Option.some.inj same⟩

theorem Agrees.resolve? (agrees : t.Agrees u) (name context : String) :
    (t.resolve? name context).map Declaration.gist =
      (u.resolve? name context).map Declaration.gist := by
  unfold SymbolTable.resolve?
  split
  next rest _ => exact agrees.kept rest
  next =>
    have inside : ((scopesOf context).findSome? fun scope => t.get? (qualify scope name)).map
        Declaration.gist =
          ((scopesOf context).findSome? fun scope => u.get? (qualify scope name)).map
            Declaration.gist := by
      rw [List.map_findSome?, List.map_findSome?]
      congr 1
      funext scope
      exact agrees.kept _
    have ending : ((t.uniqueByShortName? name).bind t.get?).map Declaration.gist =
        ((u.uniqueByShortName? name).bind u.get?).map Declaration.gist := by
      rw [agrees.unique, Option.map_bind, Option.map_bind]
      congr 1
      funext found
      exact agrees.kept found
    simp only [Option.map_or, inside, agrees.kept name, ending]

/-! ## What the order of records changes -/

def only? : List String → Option String
  | [found] => some found
  | _ => none

theorem only?_of_perm {l l' : List String} (perm : l.Perm l') : only? l = only? l' := by
  match l, l', perm.length_eq with
  | [], [], _ => rfl
  | [x], [y], _ => rw [List.perm_singleton.mp perm]
  | _ :: _ :: _, _ :: _ :: _, _ => rfl

theorem Built.uniqueByShortName?_eq (first : t.Built) (second : u.Built)
    (perm : t.names.Perm u.names) (name : String) :
    t.uniqueByShortName? name = u.uniqueByShortName? name := by
  have ending {t : SymbolTable} (built : t.Built) : t.uniqueByShortName? name =
      only? ((t.names.filter (shortName · == shortName name)).filter fun c =>
        c == name || endsInScoped c name) := by
    rw [← built.shortNames_eq]
    rfl
  rw [ending first, ending second]
  exact only?_of_perm ((perm.filter _).filter _)

/-- Any two full definitions of one name among declarations say the same. -/
def Consonant (ds : List (Declaration String)) : Prop :=
  ∀ d ∈ ds, ∀ e ∈ ds, d.isFull = true → e.isFull = true → d.name = e.name →
    d.sameContent e = true

theorem mem_of_keptOf? {ds : List (Declaration String)} {d : Declaration String}
    (keeps : keptOf? ds name = some d) : d ∈ ds ∧ d.name = name := by
  rcases Option.or_eq_some_iff.mp keeps with first | ⟨_, found⟩
  · exact (mem_definitions.mp (List.mem_of_head? first)).imp_right And.left
  · exact ⟨List.mem_of_find?_eq_some found, by simpa using List.find?_some found⟩

theorem isFull_of_keptOf? {ds : List (Declaration String)} {d : Declaration String}
    (keeps : keptOf? ds name = some d) : d.isFull = true ↔ definitions ds name ≠ [] := by
  obtain ⟨member, named⟩ := mem_of_keptOf? keeps
  constructor
  · exact fun full => List.ne_nil_of_mem (mem_definitions.mpr ⟨member, named, full⟩)
  · intro some
    by_contra forward
    exact some (definitions_of_forward keeps (Bool.eq_false_iff.mpr forward))

theorem gist_keptOf?_of_perm {ds es : List (Declaration String)} (perm : ds.Perm es)
    (consonant : Consonant ds) (name : String) :
    (keptOf? ds name).map Declaration.gist = (keptOf? es name).map Declaration.gist := by
  have names : name ∈ ds.map (·.name) ↔ name ∈ es.map (·.name) := (perm.map _).mem_iff
  have listed : (definitions ds name).Perm (definitions es name) := perm.filter _
  have full : definitions ds name ≠ [] ↔ definitions es name ≠ [] := by
    rw [ne_eq, ne_eq, ← List.length_eq_zero_iff, listed.length_eq, List.length_eq_zero_iff]
  cases first : keptOf? ds name with
  | none =>
    rw [keptOf?_eq_none, names, ← keptOf?_eq_none] at first
    rw [first]
  | some d =>
    cases second : keptOf? es name with
    | none =>
      rw [keptOf?_eq_none, ← names, ← keptOf?_eq_none, first] at second
      cases second
    | some e =>
      obtain ⟨member, named⟩ := mem_of_keptOf? first
      obtain ⟨member', named'⟩ := mem_of_keptOf? second
      have both : d.isFull = true ↔ e.isFull = true := by
        rw [isFull_of_keptOf? first, full, isFull_of_keptOf? second]
      rw [Option.map_some, Option.map_some, Option.some.injEq]
      -- Which of the records is kept hangs on the order, and whether it is full does not.
      by_cases defined : d.isFull = true
      · have same := consonant d member e (perm.mem_iff.mpr member') defined (both.mp defined)
          (named.trans named'.symm)
        exact Declaration.gist_of_canon (by simpa [Declaration.sameContent] using same) defined
      · have forward : ¬ e.isFull = true := mt both.mpr defined
        rw [Declaration.gist, if_neg defined, Declaration.gist, if_neg forward, named, named']

/-! ## Merging units in another order -/

variable {units others : List (UnitRecord String)}

theorem merge_eq_none_of_perm (perm : units.Perm others) :
    (merge units).2 = none ↔ (merge others).2 = none := by
  simp only [merge_eq_none, perm.mem_iff]

theorem agrees_merge (perm : units.Perm others)
    (consonant : Consonant (units.flatMap (·.declarations))) (merged : (merge units).2 = none) :
    (merge units).1.Agrees (merge others).1 := by
  have records := perm.flatMap_right fun u : UnitRecord String => u.declarations
  have first := history_merge merged
  have second := history_merge ((merge_eq_none_of_perm perm).mp merged)
  have names : (merge units).1.names.Perm (merge others).1.names := by
    rw [first.names, second.names, List.perm_ext_iff_of_nodup (map_firsts_nodup _ _)
      (map_firsts_nodup _ _)]
    intro name
    rw [mem_map_firsts, mem_map_firsts, (records.map _).mem_iff]
  refine ⟨?_, ?_, first.built.uniqueByShortName?_eq second.built names⟩
  · have lengths := names.length_eq
    rwa [SymbolTable.names, SymbolTable.names, List.length_map, List.length_map] at lengths
  · intro name
    rw [first.kept, second.kept]
    exact gist_keptOf?_of_perm records consonant name

end SymbolTable
end Understudy
