import Understudy.Ownership.Query
import Understudy.Proofs.Cpp.Reading
import Understudy.Proofs.Ownership.EmbeddingCycle
import Understudy.Proofs.Text.Marked

/-! What a classification answers when it is asked for a use.

Uses are looked up by the texts of their sites, and of several edges under one text the last one
counts. Main statement: the texts tell the uses of a declaration apart, but for bases that are named
twice, so that whoever asks for a use is told how that very use binds.
-/

set_option autoImplicit false

namespace Understudy

open Understudy.Cpp

/-! ## Uses -/

inductive IsUse (d : Declaration String) : Site → Usage → Prop where
  | base {name : String} : name ∈ d.bases → IsUse d (.base name) (.base name)
  | field {f : DataMember} : f ∈ d.fields → IsUse d (.field f.name) (.type f.type)
  | parameter {i j : Nat} {m : Method String} {p : Parameter} :
      d.methods[i]? = some m → m.parameters[j]? = some p →
        IsUse d (.parameter i m.name j) (.type p.type)
  | result {i : Nat} {m : Method String} {type : SemanticType} :
      d.methods[i]? = some m → m.returnType = some type →
        IsUse d (.result i m.name) (.type type)

variable {d : Declaration String} {site : Site} {usage : Usage}

theorem mem_methodUses {i : Nat} {m : Method String} :
    (site, usage) ∈ methodUses i m ↔
      (∃ j p, m.parameters[j]? = some p ∧ site = .parameter i m.name j ∧ usage = .type p.type) ∨
        ∃ type, m.returnType = some type ∧ site = .result i m.name ∧ usage = .type type := by
  simp only [methodUses, List.mem_append, List.mem_map, Prod.exists, Prod.mk.injEq,
    List.mem_zipIdx_iff_getElem?, Option.mem_toList, Option.map_eq_some_iff]
  constructor
  · rintro (⟨p, j, found, rfl, rfl⟩ | ⟨type, returns, rfl, rfl⟩)
    · exact .inl ⟨j, p, found, rfl, rfl⟩
    · exact .inr ⟨type, returns, rfl, rfl⟩
  · rintro (⟨j, p, found, rfl, rfl⟩ | ⟨type, returns, rfl, rfl⟩)
    · exact .inl ⟨p, j, found, rfl, rfl⟩
    · exact .inr ⟨type, returns, rfl, rfl⟩

theorem mem_usesOf : (site, usage) ∈ usesOf d ↔ IsUse d site usage := by
  simp only [usesOf, List.mem_append, List.mem_map, Prod.mk.injEq, List.mem_flatMap, Prod.exists,
    List.mem_zipIdx_iff_getElem?, mem_methodUses]
  constructor
  · rintro ((⟨name, named, rfl, rfl⟩ | ⟨f, held, rfl, rfl⟩) | ⟨m, i, found, inside⟩)
    · exact .base named
    · exact .field held
    · rcases inside with ⟨j, p, held, rfl, rfl⟩ | ⟨type, returns, rfl, rfl⟩
      · exact .parameter found held
      · exact .result found returns
  · intro use
    cases use with
    | base named => exact .inl (.inl ⟨_, named, rfl, rfl⟩)
    | field held => exact .inl (.inr ⟨_, held, rfl, rfl⟩)
    | parameter found held => exact .inr ⟨_, _, found, .inl ⟨_, _, held, rfl, rfl⟩⟩
    | result found returns => exact .inr ⟨_, _, found, .inr ⟨_, returns, rfl, rfl⟩⟩

/-! ## The texts of sites -/

namespace Site

def lead : Site → Char
  | .base _ => 'b'
  | .field _ => 'f'
  | .parameter .. | .result .. => 'm'

theorem head?_text (site : Site) : site.text.toList.head? = some site.lead := by
  cases site <;> simp [text, parameterText, resultText, lead]

theorem lead_of_text {a b : Site} (same : a.text = b.text) : a.lead = b.lead := by
  have first := head?_text a
  rw [same, head?_text b] at first
  exact (Option.some.inj first).symm

theorem index_of_text {i j : Nat} {front back : String}
    (same : "method:" ++ toString i ++ ":" ++ front = "method:" ++ toString j ++ ":" ++ back) :
    i = j ∧ front = back := by
  simp only [String.append_assoc, String.append_right_inj] at same
  have chars := congrArg String.toList same
  simp only [String.toList_append] at chars
  obtain ⟨numbers, rests⟩ := Text.number_mark_inj (show Char.isDigit ':' = false by decide) chars
  exact ⟨numbers, String.toList_inj.mp rests⟩

theorem parameterText_eq (index method position : String) :
    parameterText index method position =
      "method:" ++ index ++ ":" ++ (method ++ "/param:" ++ position) := by
  simp only [parameterText, String.append_assoc]

theorem resultText_eq (index method : String) :
    resultText index method = "method:" ++ index ++ ":" ++ (method ++ "/return") := by
  simp only [resultText, String.append_assoc]

theorem method_of_parameterText {i j k l : Nat} {name other : String}
    (same : parameterText (toString i) name (toString k) =
      parameterText (toString j) other (toString l)) :
    i = j ∧ (name = other → k = l) := by
  rw [parameterText_eq, parameterText_eq] at same
  obtain ⟨indices, rests⟩ := index_of_text same
  refine ⟨indices, ?_⟩
  rintro rfl
  rw [String.append_right_inj] at rests
  exact Text.toString_inj rests

theorem method_of_resultText {i j : Nat} {name other : String}
    (same : resultText (toString i) name = resultText (toString j) other) : i = j := by
  rw [resultText_eq, resultText_eq] at same
  exact (index_of_text same).1

theorem parameterText_ne_resultText {i j k : Nat} {name other : String}
    (alike : i = j → name = other) :
    parameterText (toString i) name (toString k) ≠ resultText (toString j) other := by
  intro same
  rw [parameterText_eq, resultText_eq] at same
  obtain ⟨indices, rests⟩ := index_of_text same
  rw [alike indices, String.append_assoc, String.append_right_inj, ← String.toList_inj] at rests
  simp at rests

end Site

/-! ## Uses are told apart -/

theorem pairwise_zipIdx {α : Type} (l : List α) :
    l.zipIdx.Pairwise fun a b => a.2 < b.2 := by
  rw [← List.pairwise_map, List.zipIdx_map_snd]
  exact List.pairwise_lt_range'

theorem pairwise_methodUses (i : Nat) (m : Method String) :
    (methodUses i m).Pairwise fun a b => a.1.text ≠ b.1.text := by
  rw [methodUses, List.pairwise_append]
  refine ⟨?parameters, ?result, ?across⟩
  case parameters =>
    rw [List.pairwise_map]
    refine (pairwise_zipIdx m.parameters).imp ?_
    rintro ⟨p, j⟩ ⟨q, k⟩ less same
    have positions := (Site.method_of_parameterText same).2 rfl
    exact absurd positions (Nat.ne_of_lt less)
  case result => cases m.returnType <;> simp
  case across =>
    rintro a parameter b result
    obtain ⟨⟨p, j⟩, _, rfl⟩ := List.mem_map.mp parameter
    obtain ⟨type, _, rfl⟩ := Option.map_eq_some_iff.mp (Option.mem_toList.mp result)
    exact Site.parameterText_ne_resultText fun _ => rfl

theorem text_of_mem_methodUses {i : Nat} {m : Method String} {a : Site × Usage}
    (member : a ∈ methodUses i m) :
    ∃ back, a.1.text = "method:" ++ toString i ++ ":" ++ back := by
  obtain ⟨site, usage⟩ := a
  rcases mem_methodUses.mp member with ⟨j, _, _, rfl, _⟩ | ⟨_, _, rfl, _⟩
  · exact ⟨_, Site.parameterText_eq (toString i) m.name (toString j)⟩
  · exact ⟨_, Site.resultText_eq (toString i) m.name⟩

theorem lead_of_mem_methodUses {i : Nat} {m : Method String} {a : Site × Usage}
    (member : a ∈ methodUses i m) : a.1.lead = 'm' := by
  obtain ⟨site, usage⟩ := a
  rcases mem_methodUses.mp member with ⟨_, _, _, rfl, _⟩ | ⟨_, _, rfl, _⟩ <;> rfl

/-- What two uses have to be to share a text: one base that is named twice, or fields of a
declaration whose field names are not distinct. -/
def MayShare (d : Declaration String) (a b : Site × Usage) : Prop :=
  (∃ name, a = (.base name, .base name) ∧ b = (.base name, .base name)) ∨
    (∃ f ∈ d.fields, a = (.field f.name, .type f.type)) ∧
      (∃ g ∈ d.fields, b = (.field g.name, .type g.type)) ∧
        ¬ (d.fields.map (·.name.shown)).Nodup

theorem pairwise_usesOf (d : Declaration String) :
    (usesOf d).Pairwise fun a b => a.1.text = b.1.text → MayShare d a b := by
  -- Uses of different kinds are told apart by how their texts begin, those of one kind one by one.
  rw [usesOf, List.pairwise_append, List.pairwise_append, List.pairwise_flatMap]
  refine ⟨⟨?bases, ?fields, ?basesFields⟩, ⟨?method, ?methods⟩, ?others⟩
  case bases =>
    rw [List.pairwise_map]
    refine List.pairwise_of_forall fun name other same => .inl ?_
    obtain rfl : name = other := by simpa [Site.text] using same
    exact ⟨name, rfl, rfl⟩
  case fields =>
    by_cases distinct : (d.fields.map (·.name.shown)).Nodup
    · rw [List.pairwise_map]
      refine (List.pairwise_map.mp distinct).imp fun apart same => absurd ?_ apart
      simpa [Site.text] using same
    · refine List.pairwise_of_forall_mem_list fun a inFirst b inSecond _ => .inr ?_
      obtain ⟨f, held, rfl⟩ := List.mem_map.mp inFirst
      obtain ⟨g, among, rfl⟩ := List.mem_map.mp inSecond
      exact ⟨⟨f, held, rfl⟩, ⟨g, among, rfl⟩, distinct⟩
  case basesFields =>
    intro a base b field same
    obtain ⟨_, _, rfl⟩ := List.mem_map.mp base
    obtain ⟨_, _, rfl⟩ := List.mem_map.mp field
    exact absurd (Site.lead_of_text same) (by simp [Site.lead])
  case method =>
    intro place _
    exact (pairwise_methodUses place.2 place.1).imp fun apart same => absurd same apart
  case methods =>
    -- Method names can hold anything, but the index before them tells methods apart.
    refine (pairwise_zipIdx d.methods).imp fun less a inFirst b inSecond same => ?_
    obtain ⟨front, spelled⟩ := text_of_mem_methodUses inFirst
    obtain ⟨back, read⟩ := text_of_mem_methodUses inSecond
    rw [spelled, read] at same
    exact absurd (Site.index_of_text same).1 (Nat.ne_of_lt less)
  case others =>
    intro a first b second same
    obtain ⟨place, _, inside⟩ := List.mem_flatMap.mp second
    have last : b.1.lead = 'm' := lead_of_mem_methodUses inside
    have leads := Site.lead_of_text same
    rw [last] at leads
    rcases List.mem_append.mp first with base | field
    · obtain ⟨_, _, rfl⟩ := List.mem_map.mp base
      exact absurd leads (by simp [Site.lead])
    · obtain ⟨_, _, rfl⟩ := List.mem_map.mp field
      exact absurd leads (by simp [Site.lead])

theorem mayShare_symm {a b : Site × Usage} (shared : MayShare d a b) : MayShare d b a := by
  rcases shared with ⟨name, first, second⟩ | ⟨first, second, repeated⟩
  · exact .inl ⟨name, second, first⟩
  · exact .inr ⟨second, first, repeated⟩

theorem eq_of_text {a b : Site × Usage} (first : a ∈ usesOf d) (second : b ∈ usesOf d)
    (told : ∀ name, a.1 = .field name → (d.fields.map (·.name.shown)).Nodup)
    (same : a.1.text = b.1.text) : a = b := by
  by_contra apart
  have : Std.Symm fun a b : Site × Usage => a.1.text = b.1.text → MayShare d a b :=
    ⟨fun _ _ shared same => mayShare_symm (shared same.symm)⟩
  rcases (pairwise_usesOf d).forall first second apart same with
    ⟨name, rfl, rfl⟩ | ⟨⟨f, _, rfl⟩, _, repeated⟩
  · exact apart rfl
  · exact repeated (told f.name rfl)

/-! ## Answers -/

def edgeOfUse? (t : SymbolTable) (d : Declaration String) (site : Site) (usage : Usage) :
    Option OwnershipEdge :=
  (classifyUse t d.name usage).map fun v => ⟨d.name, site, v.target, v.ownership, v.resolved⟩

theorem mem_edgesOf {t : SymbolTable} {e : OwnershipEdge} :
    e ∈ edgesOf t d ↔ ∃ use ∈ usesOf d, edgeOfUse? t d use.1 use.2 = some e := by
  simp only [edgesOf, verdictsOf, edgeOfUse?, List.mem_map, List.mem_filterMap,
    Option.map_eq_some_iff]
  constructor
  · rintro ⟨_, ⟨use, used, v, judged, rfl⟩, rfl⟩
    exact ⟨use, used, v, judged, rfl⟩
  · rintro ⟨use, used, v, judged, rfl⟩
    exact ⟨_, ⟨use, used, v, judged, rfl⟩, rfl⟩

theorem mem_ownershipEdges {t : SymbolTable} (arena : t.IsArena) (declared : d ∈ t.declarations)
    {e : OwnershipEdge} : e ∈ t.ownershipEdges ∧ e.source = d.name ↔ e ∈ edgesOf t d := by
  have source {d : Declaration String} (member : e ∈ edgesOf t d) : e.source = d.name := by
    obtain ⟨_, _, drawn⟩ := mem_edgesOf.mp member
    obtain ⟨_, _, rfl⟩ := Option.map_eq_some_iff.mp drawn
    rfl
  constructor
  · rintro ⟨member, named⟩
    obtain ⟨other, listed, member⟩ := List.mem_flatMap.mp member
    have same : other.name = d.name := (source member).symm.trans named
    rwa [List.inj_on_of_nodup_map arena.nodup_names listed declared same] at member
  · exact fun member => ⟨List.mem_flatMap.mpr ⟨d, declared, member⟩, source member⟩

theorem ofSite?_eq {c : Classification} {source site : String} {answer : Option OwnershipEdge}
    (only : ∀ e, e ∈ c.edges ∧ e.source = source ∧ e.site.text = site ↔ answer = some e) :
    c.ofSite? source site = answer := by
  unfold Classification.ofSite?
  -- It does not matter that the last edge counts, since any edge that is found is the only one.
  cases found : c.edges.reverse.find? fun e => e.source == source && e.site.text == site with
  | none =>
    refine (Option.eq_none_iff_forall_ne_some.mpr fun e drawn => ?_).symm
    obtain ⟨member, sourced, placed⟩ := (only e).mpr drawn
    have missed := List.find?_eq_none.mp found e (List.mem_reverse.mpr member)
    simp [sourced, placed] at missed
  | some e =>
    have fits := List.find?_some found
    have member := List.mem_reverse.mp (List.mem_of_find?_eq_some found)
    simp only [Bool.and_eq_true, beq_iff_eq] at fits
    exact ((only e).mp ⟨member, fits.1, fits.2⟩).symm

theorem edge_iff_of_mem_usesOf {t : SymbolTable} (arena : t.IsArena)
    (declared : d ∈ t.declarations) (used : (site, usage) ∈ usesOf d)
    (told : ∀ name, site = .field name → (d.fields.map (·.name.shown)).Nodup)
    (e : OwnershipEdge) :
    e ∈ t.ownershipEdges ∧ e.source = d.name ∧ e.site.text = site.text ↔
      edgeOfUse? t d site usage = some e := by
  rw [← and_assoc, mem_ownershipEdges arena declared, mem_edgesOf]
  constructor
  · rintro ⟨⟨other, inside, drawn⟩, placed⟩
    obtain ⟨_, _, rfl⟩ := Option.map_eq_some_iff.mp drawn
    cases eq_of_text used inside told placed.symm
    exact drawn
  · intro drawn
    refine ⟨⟨_, used, drawn⟩, ?_⟩
    obtain ⟨_, _, rfl⟩ := Option.map_eq_some_iff.mp drawn
    rfl

/-! ## How uses bind -/

/-- An edge says of the use of a name at a site how it binds. What is not resolved goes by the name
that is written. -/
structure IsEdgeOf (t : SymbolTable) (d : Declaration String) (site : Site) (name : String)
    (embeds : Prop) (e : OwnershipEdge) : Prop where
  source : e.source = d.name
  site : e.site = site
  target : e.target = ((t.resolve? name d.name).map (·.name)).getD name
  resolved : e.resolved = (t.resolve? name d.name).isSome
  owned : e.ownership = .owned ↔
    embeds ∧ ∃ target, t.resolve? name d.name = some target ∧ target.isFull = true

namespace Cpp.SemanticType

def isBuiltin : SemanticType → Bool
  | .primitive _ _ => true
  | .misnamed builtin _ _ => builtin
  | _ => false

theorem target?_eq_some {type : SemanticType} {name : String} :
    type.target? = some name ↔ ∃ isConst, type.base = .named name isConst := by
  induction type with
  | primitive => simp [target?, base]
  | named => simp [target?, base]
  | misnamed => simp [target?, base]
  | pointer inner isConst ih => exact ih
  | reference inner isConst ih => exact ih

theorem target?_eq_none {type : SemanticType} (fit : (Usage.type type).isUnfit = false) :
    type.target? = none ↔
      type.base.isBuiltin = true ∨ ∃ isConst, type.base = .misnamed false .null isConst := by
  induction type with
  | primitive => simp [target?, base, isBuiltin]
  | named => simp [target?, base, isBuiltin]
  | misnamed builtin name isConst =>
    simp only [target?, base, isBuiltin, true_iff]
    cases builtin with
    | true => exact .inl rfl
    | false =>
      have nameless : name = .null := by simpa [Usage.isUnfit, misname?] using fit
      exact .inr ⟨isConst, by rw [nameless]⟩
  | pointer inner isConst ih => exact ih fit
  | reference inner isConst ih => exact ih fit

theorem isIndirect_eq_false {type : SemanticType} {name : String} {isConst : Bool}
    (base : type.base = .named name isConst) :
    type.isIndirect = false ↔ type = .named name isConst := by
  cases type <;> simp_all [isIndirect, SemanticType.base]

end Cpp.SemanticType

/-- The answer to a question for a type at a site. Types name nothing where their innermost type is
builtin; a record can also tag that type as named and give null for the name. -/
structure IsAnswer (t : SymbolTable) (d : Declaration String) (site : Site) (type : SemanticType)
    (answer : Option OwnershipEdge) : Prop where
  eq_none_iff : answer = none ↔
    type.base.isBuiltin = true ∨ ∃ isConst, type.base = .misnamed false .null isConst
  edge : ∀ e, answer = some e → ∃ name isConst,
    type.base = .named name isConst ∧ IsEdgeOf t d site name (type = .named name isConst) e

variable {t : SymbolTable}

theorem isEdgeOf_base (site : Site) (name : String) :
    ∃ e, edgeOfUse? t d site (.base name) = some e ∧ IsEdgeOf t d site name True e := by
  refine ⟨_, rfl, ?_⟩
  unfold classifyBase
  cases found : t.resolve? name d.name with
  | none => constructor <;> simp [found]
  | some target => cases full : target.isFull <;> constructor <;> simp [found, full]

theorem isEdgeOf_type {type : SemanticType} {e : OwnershipEdge}
    (drawn : edgeOfUse? t d site (.type type) = some e) :
    ∃ name isConst, type.base = .named name isConst ∧
      IsEdgeOf t d site name (type = .named name isConst) e := by
  obtain ⟨v, judged, rfl⟩ := Option.map_eq_some_iff.mp drawn
  obtain ⟨name, targeted, rfl⟩ := Option.map_eq_some_iff.mp judged
  obtain ⟨isConst, innermost⟩ := SemanticType.target?_eq_some.mp targeted
  have bare := SemanticType.isIndirect_eq_false innermost
  refine ⟨name, isConst, innermost, ?_⟩
  cases found : t.resolve? name d.name with
  | none => constructor <;> simp [found]
  | some target =>
    cases indirect : type.isIndirect <;> cases full : target.isFull <;>
      constructor <;> simp [found, full, ← bare, indirect]

theorem isAnswer_type {type : SemanticType} (fit : (Usage.type type).isUnfit = false) :
    IsAnswer t d site type (edgeOfUse? t d site (.type type)) where
  eq_none_iff := by
    rw [← SemanticType.target?_eq_none fit]
    simp [edgeOfUse?, classifyUse, classifyType]
  edge _ := isEdgeOf_type

theorem isEdgeOf_of_mem_ownershipEdges {e : OwnershipEdge} (member : e ∈ t.ownershipEdges) :
    ∃ d ∈ t.declarations, ∃ site name embeds, IsEdgeOf t d site name embeds e := by
  obtain ⟨d, declared, member⟩ := List.mem_flatMap.mp member
  obtain ⟨⟨site, usage⟩, _, drawn⟩ := mem_edgesOf.mp member
  refine ⟨d, declared, site, ?_⟩
  cases usage with
  | base name =>
    obtain ⟨_, same, binds⟩ := isEdgeOf_base (t := t) (d := d) site name
    cases same.symm.trans drawn
    exact ⟨name, True, binds⟩
  | type type =>
    obtain ⟨name, _, _, binds⟩ := isEdgeOf_type drawn
    exact ⟨name, _, binds⟩

/-! ## Asking for uses -/

/-- What a classification answers for the uses in a declaration, and which of these share a text. -/
structure AnswersUses (t : SymbolTable) (c : Classification) (d : Declaration String) : Prop where
  /-- However often a base is named, all its edges are the one that is answered. -/
  base : ∀ name ∈ d.bases, ∃ e, c.edgeOfBase (.text d.name) (.text name) = .ok (some e) ∧
    IsEdgeOf t d (.base name) name True e ∧
      ∀ other ∈ c.edges, other.source = d.name → other.site.text = (Site.base name).text → other = e
  field : (d.fields.map (·.name.shown)).Nodup → ∀ f ∈ d.fields, ∃ answer,
    c.edgeOfField (.text d.name) f.name = .ok answer ∧
      IsAnswer t d (.field f.name) f.type answer
  parameter : ∀ (i j : Nat) m p, d.methods[i]? = some m → m.parameters[j]? = some p → ∃ answer,
    c.edgeOfParameter d (.int i) (.int j) = .ok answer ∧
      IsAnswer t d (.parameter i m.name j) p.type answer
  result : ∀ (i : Nat) m type, d.methods[i]? = some m → m.returnType = some type → ∃ answer,
    c.edgeOfResult d (.int i) = .ok answer ∧ IsAnswer t d (.result i m.name) type answer
  noResult : ∀ (i : Nat) m, d.methods[i]? = some m → m.returnType = none →
    c.edgeOfResult d (.int i) = .ok none
  apart : (usesOf d).Pairwise fun a b => a.1.text = b.1.text → MayShare d a b

theorem pickAt_of_getElem? {α : Type} {items : List α} {i : Nat} {item : α}
    (found : items[i]? = some item) : pickAt items (.int i) = .ok item := by
  obtain ⟨inside, rfl⟩ := List.getElem?_eq_some_iff.mp found
  have forward : ¬ (i : Int) < 0 := by omega
  have place : placeOf? items.length i = some i := by simp [placeOf?, forward, inside]
  simp [pickAt, indexOf?, pick, place, found]

theorem text_ne_of_noResult {i : Nat} {m : Method String} (found : d.methods[i]? = some m)
    (none : m.returnType = none) (used : IsUse d site usage) :
    site.text ≠ (Site.result i m.name).text := by
  intro same
  have leads := Site.lead_of_text same
  cases used with
  | base => simp [Site.lead] at leads
  | field => simp [Site.lead] at leads
  | @parameter k _ n _ other =>
    refine Site.parameterText_ne_resultText ?_ same
    rintro rfl
    cases found.symm.trans other
    rfl
  | @result k n type other returns =>
    obtain rfl := Site.method_of_resultText same
    cases found.symm.trans other
    rw [none] at returns
    cases returns

theorem ofSite?_of_noResult (arena : t.IsArena) (declared : d ∈ t.declarations)
    {c : Classification} (edges : c.edges = t.ownershipEdges) {i : Nat} {m : Method String}
    (found : d.methods[i]? = some m) (none : m.returnType = none) :
    c.ofSite? d.name (Site.result i m.name).text = Option.none := by
  refine ofSite?_eq fun e => ?_
  rw [edges, ← and_assoc, mem_ownershipEdges arena declared]
  simp only [reduceCtorEq, iff_false]
  rintro ⟨drawn, placed⟩
  obtain ⟨⟨site, usage⟩, used, judged⟩ := mem_edgesOf.mp drawn
  obtain ⟨_, _, rfl⟩ := Option.map_eq_some_iff.mp judged
  exact text_ne_of_noResult found none (mem_usesOf.mp used) placed

namespace SymbolTable

theorem isUnfit_of_classify {c : Classification} (classified : t.classify.2 = .ok c)
    (declared : d ∈ t.declarations) (used : (site, usage) ∈ usesOf d) : usage.isUnfit = false := by
  rcases classify_cases t with ⟨_, outcome⟩ | ⟨fit, _⟩
  · rw [outcome] at classified
    cases classified
  · rw [hasUnfitUse, List.any_eq_false] at fit
    have listed : (d.name, usage) ∈ t.uses :=
      List.mem_flatMap.mpr ⟨d, declared, List.mem_map.mpr ⟨_, used, rfl⟩⟩
    exact Bool.eq_false_iff.mpr (fit _ listed)

/-- A classification answers every question for a use with what that very use comes to. -/
theorem answersUses_of_classify {units : List (UnitRecord String)}
    (merged : merge units = (t, none)) {c : Classification} (classified : t.classify.2 = .ok c)
    (declared : d ∈ t.declarations) : AnswersUses t c d := by
  have arena := isArena_of_merge merged
  have edges := (dependencyOrder_of_classify arena classified).2
  -- A look-up by text comes to the edge of the very use, and its sort decides what the edge says.
  have answered {site usage} (used : IsUse d site usage)
      (told : ∀ name, site = .field name → (d.fields.map (·.name.shown)).Nodup) :
      c.ofSite? d.name site.text = edgeOfUse? t d site usage :=
    ofSite?_eq fun e => by
      rw [edges, edge_iff_of_mem_usesOf arena declared (mem_usesOf.mpr used) told]
  have typed {site type} (used : IsUse d site (.type type)) :
      IsAnswer t d site type (edgeOfUse? t d site (.type type)) :=
    isAnswer_type (isUnfit_of_classify classified declared (mem_usesOf.mpr used))
  exact {
    base := by
      intro name named
      have used := IsUse.base named
      obtain ⟨e, drawn, binds⟩ := isEdgeOf_base (t := t) (d := d) (.base name) name
      refine ⟨e, ?_, binds, ?_⟩
      · exact congrArg Except.ok ((answered used (by simp)).trans drawn)
      · intro other listed sourced placed
        have same := (edge_iff_of_mem_usesOf arena declared (mem_usesOf.mpr used) (by simp)
          other).mp ⟨edges ▸ listed, sourced, placed⟩
        exact Option.some.inj (same.symm.trans drawn)
    field := by
      intro distinct f held
      have used := IsUse.field held
      exact ⟨_, congrArg Except.ok (answered used fun _ _ => distinct), typed used⟩
    parameter := by
      intro i j m p found held
      have used := IsUse.parameter found held
      refine ⟨_, ?_, typed used⟩
      rw [← answered used (by simp)]
      simp only [Classification.edgeOfParameter, pickAt_of_getElem? found]
      rfl
    result := by
      intro i m type found returns
      have used := IsUse.result found returns
      refine ⟨_, ?_, typed used⟩
      rw [← answered used (by simp)]
      simp only [Classification.edgeOfResult, pickAt_of_getElem? found]
      rfl
    noResult := by
      intro i m found none
      simp only [Classification.edgeOfResult, pickAt_of_getElem? found]
      exact congrArg Except.ok (ofSite?_of_noResult arena declared edges found none)
    apart := pairwise_usesOf d }

/-- A declaration with a base that is named twice and one that is missing, and with a method whose
name looks like a site in another one. -/
def lookalikeUses : Declaration String :=
  let returning (name : String) (parameters : List SemanticType) (type : Option SemanticType) :
      Method String :=
    { name, parameters := parameters.map (⟨·, .null⟩), returnType := type
      isPure := false, isConst := false, visibility := .public }
  { name := "D", kind := .ordinary, bases := ["B", "Gone", "B"]
    methods :=
      [returning "m" [.named "B" true, .primitive "int" false] (some (.named "F" false)),
       returning "~m/param:0" [.pointer (.named "B" false) false] none]
    fields := [⟨.text "x", .named "B" false, .text "D"⟩]
    isFull := true, unit := .null }

def lookalikeUnits : List (UnitRecord String) :=
  let empty (name : String) (isFull : Bool) : Declaration String :=
    { name, kind := .ordinary, bases := [], methods := [], fields := [], isFull, unit := .null }
  [{ name := .null, declarations := [lookalikeUses, empty "B" true, empty "F" false]
     bodies := [], header := .null }]

theorem answersUses_lookalikeUses :
    let t := (merge lookalikeUnits).1
    merge lookalikeUnits = (t, none) ∧ lookalikeUses ∈ t.declarations ∧
      ∃ c, t.classify.2 = .ok c ∧ AnswersUses t c lookalikeUses ∧
        c.edgeOfParameter lookalikeUses (.int 0) (.int 0) =
          .ok (some ⟨"D", .parameter 0 "m" 0, "B", .owned, true⟩) ∧
        c.edgeOfParameter lookalikeUses (.int 1) (.int 0) =
          .ok (some ⟨"D", .parameter 1 "~m/param:0" 0, "B", .referenced, true⟩) ∧
        c.edgeOfResult lookalikeUses (.int 1) = .ok none := by
  intro t
  have merged : merge lookalikeUnits = (t, none) := Prod.ext rfl (by decide +kernel)
  have declared : lookalikeUses ∈ t.declarations := by decide +kernel
  have asked : t.classify.2.toOption.map (fun c =>
      (c.edgeOfParameter lookalikeUses (.int 0) (.int 0),
        c.edgeOfParameter lookalikeUses (.int 1) (.int 0),
        c.edgeOfResult lookalikeUses (.int 1))) =
      some (.ok (some ⟨"D", .parameter 0 "m" 0, "B", .owned, true⟩),
        .ok (some ⟨"D", .parameter 1 "~m/param:0" 0, "B", .referenced, true⟩), .ok none) := by
    decide +kernel
  refine ⟨merged, declared, ?_⟩
  cases classified : t.classify.2 with
  | error fault =>
    rw [classified] at asked
    cases asked
  | ok c =>
    rw [classified] at asked
    have answers := Option.some.inj asked
    simp only [Prod.mk.injEq] at answers
    exact ⟨c, rfl, answersUses_of_classify merged classified declared, answers⟩

end SymbolTable
end Understudy
