import Understudy.Proofs.Ownership.Relations
import Understudy.Proofs.Ownership.Sites
import Understudy.Proofs.Symbols.Scoping

/-! What the graph of relations shows.

Main statement: its nodes are the declarations and after them what is used without being declared;
its links are the pairs that some use joins, each of them owned if one of its uses is.
-/

set_option autoImplicit false

namespace Understudy

open Understudy.Cpp

def OwnershipEdge.ends (e : OwnershipEdge) : String × String := (e.source, e.target)

def undeclared (edges : List OwnershipEdge) : List String :=
  ((edges.filter (!·.resolved)).map (·.target)).eraseDups

/-- How a pair is bound by all uses that join it: one owned use is enough. -/
def binding (edges : List OwnershipEdge) (ends : String × String) : Ownership :=
  if edges.any fun e => e.isOwned && e.ends == ends then .owned else .referenced

def typeNode (name kind : String) : GraphNode :=
  ⟨.text name, [("label", .text name), ("kind", .text kind)]⟩

def typeLink (edges : List OwnershipEdge) (ends : String × String) : GraphLink :=
  ⟨.text ends.1, .text ends.2, [("ownership", .text (binding edges ends).keyword)]⟩

def typeNodes (ds : List (Declaration String)) (edges : List OwnershipEdge) : List GraphNode :=
  ds.map (fun d => typeNode d.name d.label) ++ (undeclared edges).map (typeNode · "opaque")

/-- One link for each pair, in the order in which uses first join them. -/
def typeLinks (edges : List OwnershipEdge) : List GraphLink :=
  (edges.map (·.ends)).eraseDups.map (typeLink edges)

variable {ds : List (Declaration String)} {edges : List OwnershipEdge} {e : OwnershipEdge}
  {nodes : List GraphNode} {links : List GraphLink}

theorem mem_undeclared {name : String} :
    name ∈ undeclared edges ↔ ∃ e ∈ edges, e.resolved = false ∧ e.target = name := by
  simp [undeclared, and_assoc]

theorem hasNode_typeNodes {name : String} :
    Graph.hasNode ⟨typeNodes ds edges, links⟩ (.text name) = true ↔
      name ∈ ds.map (·.name) ∨ name ∈ undeclared edges := by
  simp [Graph.hasNode, typeNodes, typeNode]

theorem joins_typeLink {source target : String} {ends : String × String} :
    (typeLink edges ends).joins (.text source) (.text target) = true ↔
      ends = (source, target) := by
  simp [GraphLink.joins, typeLink, Prod.ext_iff]

theorem hasLink_typeLinks {source target : String} :
    Graph.hasLink ⟨nodes, typeLinks edges⟩ (.text source) (.text target) = true ↔
      (source, target) ∈ edges.map (·.ends) := by
  simp only [Graph.hasLink, typeLinks, List.any_map, List.any_eq_true, Function.comp_apply,
    joins_typeLink, List.mem_eraseDups, exists_eq_right]

/-! ## One more use -/

theorem eraseDups_concat {α : Type} [BEq α] [LawfulBEq α] (l : List α) (a : α) :
    (l ++ [a]).eraseDups = if a ∈ l then l.eraseDups else l.eraseDups ++ [a] := by
  rw [List.eraseDups_append]
  split
  next known => simp [List.removeAll, known]
  next fresh => simp [List.removeAll, fresh, List.eraseDups_cons]

theorem nodup_eraseDups {α : Type} [BEq α] [LawfulBEq α] (l : List α) : l.eraseDups.Nodup := by
  induction l using List.reverseRecOn with
  | nil => simp
  | append_singleton l a ih =>
    rw [eraseDups_concat]
    split
    next => exact ih
    next fresh => simpa using List.Nodup.concat (mt List.mem_eraseDups.mp fresh) ih

theorem undeclared_concat :
    undeclared (edges ++ [e]) =
      if e.resolved = true ∨ e.target ∈ undeclared edges then undeclared edges
      else undeclared edges ++ [e.target] := by
  unfold undeclared
  cases resolved : e.resolved with
  | true => simp [resolved]
  | false =>
    rw [List.filter_append, List.map_append]
    simp only [resolved, List.filter_cons, List.filter_nil, Bool.not_false, if_true,
      List.map_cons, List.map_nil, eraseDups_concat, List.mem_eraseDups, Bool.false_eq_true,
      false_or]

theorem binding_eq_owned {ends : String × String} :
    binding edges ends = .owned ↔ ∃ e ∈ edges, e.isOwned = true ∧ e.ends = ends := by
  unfold binding
  split <;> simp_all

theorem binding_concat {ends : String × String} :
    binding (edges ++ [e]) ends =
      if e.isOwned = true ∧ e.ends = ends then .owned else binding edges ends := by
  simp only [binding, List.any_append, List.any_cons, List.any_nil, Bool.or_false, Bool.or_eq_true,
    Bool.and_eq_true, beq_iff_eq]
  split <;> split <;> simp_all

theorem binding_concat_of_notMem (fresh : e.ends ∉ edges.map (·.ends)) :
    binding (edges ++ [e]) e.ends = e.ownership := by
  have none : binding edges e.ends = .referenced := by
    refine if_neg fun bound => fresh ?_
    obtain ⟨other, member, joins⟩ := List.any_eq_true.mp bound
    rw [Bool.and_eq_true, beq_iff_eq] at joins
    exact List.mem_map.mpr ⟨other, member, joins.2⟩
  rw [binding_concat, none]
  cases owned : e.ownership <;> simp [OwnershipEdge.isOwned, owned]

theorem typeLink_concat {ends : String × String} (other : ¬ (e.isOwned = true ∧ e.ends = ends)) :
    typeLink (edges ++ [e]) ends = typeLink edges ends := by
  rw [typeLink, binding_concat, if_neg other, typeLink]

theorem addTarget_typeNodes (told : e.resolved = true ↔ e.target ∈ ds.map (·.name)) :
    (if Graph.hasNode ⟨typeNodes ds edges, links⟩ (.text e.target) then
        ⟨typeNodes ds edges, links⟩
      else Graph.addNode ⟨typeNodes ds edges, links⟩ (.text e.target)
        [("label", .text e.target), ("kind", .text "opaque")]) =
      Graph.mk (typeNodes ds (edges ++ [e])) links := by
  have known : Graph.hasNode ⟨typeNodes ds edges, links⟩ (.text e.target) = true ↔
      e.resolved = true ∨ e.target ∈ undeclared edges := by
    rw [hasNode_typeNodes, told]
  have grown : typeNodes ds (edges ++ [e]) = ds.map (fun d => typeNode d.name d.label) ++
      (if e.resolved = true ∨ e.target ∈ undeclared edges then undeclared edges
        else undeclared edges ++ [e.target]).map (typeNode · "opaque") := by
    rw [typeNodes, undeclared_concat]
  simp only [grown, ← known]
  split
  next => rfl
  next missing =>
    rw [Graph.addNode, if_neg missing, List.map_append, ← List.append_assoc]
    rfl

theorem map_typeLink_of_owned (owned : e.isOwned = true) (ends : String × String) :
    (if (typeLink edges ends).joins (.text e.source) (.text e.target) then
        { typeLink edges ends with
          attributes := Entries.update (typeLink edges ends).attributes
            [("ownership", .text e.ownership.keyword)] }
      else typeLink edges ends) = typeLink (edges ++ [e]) ends := by
  split
  next joined =>
    obtain rfl := joins_typeLink.mp joined
    have owns : e.ownership = .owned := by simpa [OwnershipEdge.isOwned] using owned
    rw [typeLink, typeLink, binding_concat, if_pos ⟨owned, rfl⟩, owns]
    rfl
  next apart =>
    rw [joins_typeLink] at apart
    exact (typeLink_concat fun both => apart both.2.symm).symm

theorem addUse_typeLinks (source : Graph.hasNode ⟨nodes, typeLinks edges⟩ (.text e.source) = true)
    (target : Graph.hasNode ⟨nodes, typeLinks edges⟩ (.text e.target) = true) :
    (if Graph.hasLink ⟨nodes, typeLinks edges⟩ (.text e.source) (.text e.target) && !e.isOwned then
        ⟨nodes, typeLinks edges⟩
      else Graph.addLink ⟨nodes, typeLinks edges⟩ (.text e.source) (.text e.target)
        [("ownership", .text e.ownership.keyword)]) =
      Graph.mk nodes (typeLinks (edges ++ [e])) := by
  have grown : typeLinks (edges ++ [e]) =
      (if e.ends ∈ edges.map (·.ends) then (edges.map (·.ends)).eraseDups
        else (edges.map (·.ends)).eraseDups ++ [e.ends]).map (typeLink (edges ++ [e])) := by
    rw [← eraseDups_concat, typeLinks, List.map_append]
    rfl
  rw [Graph.addLink_eq source target]
  -- A joined pair keeps its place, and its binding unless the use is owned. A new pair comes last.
  by_cases known : e.ends ∈ edges.map (·.ends)
  · rw [if_pos known] at grown
    rw [hasLink_typeLinks.mpr known, grown]
    cases owned : e.isOwned with
    | false =>
      have same : (edges.map (·.ends)).eraseDups.map (typeLink (edges ++ [e])) = typeLinks edges :=
        List.map_congr_left fun ends _ => typeLink_concat (by simp [owned])
      rw [same]
      rfl
    | true =>
      simp only [Bool.not_true, Bool.and_false, Bool.false_eq_true, if_false, if_true, typeLinks,
        List.map_map]
      congr 1
      exact List.map_congr_left fun ends _ => map_typeLink_of_owned owned ends
  · rw [if_neg known, List.map_append] at grown
    have missing : Graph.hasLink ⟨nodes, typeLinks edges⟩ (.text e.source) (.text e.target) =
        false := Bool.eq_false_iff.mpr (mt hasLink_typeLinks.mp known)
    have same : (edges.map (·.ends)).eraseDups.map (typeLink (edges ++ [e])) = typeLinks edges := by
      refine List.map_congr_left fun ends member => typeLink_concat fun both => known ?_
      exact both.2 ▸ List.mem_eraseDups.mp member
    rw [missing, grown, same, List.map_singleton, typeLink, binding_concat_of_notMem known]
    rfl

/-- One more use turns the graph of some uses into that of all of them. -/
theorem addRelation_eq (source : e.source ∈ ds.map (·.name))
    (told : e.resolved = true ↔ e.target ∈ ds.map (·.name)) :
    addRelation ⟨typeNodes ds edges, typeLinks edges⟩ e =
      ⟨typeNodes ds (edges ++ [e]), typeLinks (edges ++ [e])⟩ := by
  unfold addRelation
  dsimp only
  rw [addTarget_typeNodes told]
  refine addUse_typeLinks (hasNode_typeNodes.mpr (.inl source)) (hasNode_typeNodes.mpr ?_)
  rw [← told, mem_undeclared]
  cases resolved : e.resolved with
  | true => exact .inl rfl
  | false => exact .inr ⟨e, List.mem_append_right _ List.mem_cons_self, resolved, rfl⟩

/-! ## All declarations and uses -/

theorem foldl_addNode (known more : List (Declaration String))
    (distinct : ((known ++ more).map (·.name)).Nodup) :
    more.foldl (fun g d => g.addNode (.text d.name) (declarationNode d)) ⟨typeNodes known [], []⟩ =
      Graph.mk (typeNodes (known ++ more) []) [] := by
  induction more generalizing known with
  | nil => simp
  | cons d more ih =>
    have fresh : ¬ Graph.hasNode ⟨typeNodes known [], []⟩ (.text d.name) = true := by
      rw [hasNode_typeNodes]
      simp only [List.map_append, List.map_cons, List.nodup_middle, List.nodup_cons,
        List.mem_append, not_or] at distinct
      simpa [undeclared] using distinct.1.1
    have step : Graph.addNode ⟨typeNodes known [], []⟩ (.text d.name) (declarationNode d) =
        Graph.mk (typeNodes (known ++ [d]) []) [] := by
      rw [Graph.addNode, if_neg fresh]
      simp [typeNodes, undeclared, typeNode, declarationNode]
    rw [List.foldl_cons, step, ih _ (by simpa using distinct), List.append_assoc]
    rfl

theorem foldl_addRelation (seen more : List OwnershipEdge)
    (fits : ∀ e ∈ more, e.source ∈ ds.map (·.name) ∧
      (e.resolved = true ↔ e.target ∈ ds.map (·.name))) :
    more.foldl addRelation ⟨typeNodes ds seen, typeLinks seen⟩ =
      ⟨typeNodes ds (seen ++ more), typeLinks (seen ++ more)⟩ := by
  -- At every point the graph is that of the uses seen so far.
  induction more generalizing seen with
  | nil => simp
  | cons e more ih =>
    obtain ⟨source, told⟩ := fits e List.mem_cons_self
    rw [List.foldl_cons, addRelation_eq source told,
      ih _ fun other member => fits other (List.mem_cons_of_mem _ member), List.append_assoc]
    rfl

structure ShowsRelations (ds : List (Declaration String)) (edges : List OwnershipEdge)
    (g : Graph) : Prop where
  /-- Declarations come first and in their order, then what is only used. -/
  nodes : g.nodes =
    ds.map (fun d => typeNode d.name d.label) ++ (undeclared edges).map (typeNode · "opaque")
  forward : ∀ d ∈ ds, d.label = "forward" ↔ d.isFull = false
  kind : ∀ d ∈ ds, d.isFull = true → d.label = d.kind.keyword
  apart : ∀ name ∈ undeclared edges, name ∉ ds.map (·.name)
  linked : ∀ source target, g.hasLink (.text source) (.text target) = true ↔
    ∃ e ∈ edges, e.source = source ∧ e.target = target
  /-- A link says nothing else than whether one of its uses is owned. -/
  bound : ∀ l ∈ g.links, ∃ source target ownership,
    l = ⟨.text source, .text target, [("ownership", .text (Ownership.keyword ownership))]⟩ ∧
      (ownership = .owned ↔
        ∃ e ∈ edges, e.source = source ∧ e.target = target ∧ e.ownership = .owned)
  single : (g.links.map fun l => (l.source, l.target)).Nodup

theorem forward_iff (d : Declaration String) : d.label = "forward" ↔ d.isFull = false := by
  unfold Declaration.label
  cases d.isFull <;> cases d.kind <;> simp [DeclKind.keyword]

theorem showsRelations_drawing (apart : ∀ name ∈ undeclared edges, name ∉ ds.map (·.name)) :
    ShowsRelations ds edges ⟨typeNodes ds edges, typeLinks edges⟩ where
  nodes := rfl
  forward d _ := forward_iff d
  kind d _ full := if_pos full
  apart := apart
  linked source target := by
    rw [hasLink_typeLinks, List.mem_map]
    simp only [OwnershipEdge.ends, Prod.mk.injEq]
  bound l member := by
    obtain ⟨ends, _, rfl⟩ := List.mem_map.mp member
    refine ⟨_, _, _, rfl, ?_⟩
    rw [binding_eq_owned]
    simp only [OwnershipEdge.isOwned, OwnershipEdge.ends, beq_iff_eq, Prod.ext_iff, and_assoc,
      and_comm]
  single := by
    rw [typeLinks, List.map_map]
    refine (nodup_eraseDups _).map fun ends others same => ?_
    simpa [typeLink, Prod.ext_iff] using same

namespace SymbolTable

variable {t : SymbolTable}

theorem notMem_names_of_resolve? (arena : t.IsArena)
    (relative : ∀ d ∈ t.declarations, ∀ rest, d.name ≠ "::" ++ rest) {name context : String}
    (missing : t.resolve? name context = none) : name ∉ t.names := by
  intro member
  obtain ⟨d, declared, rfl⟩ := List.mem_map.mp member
  have unmarked : ∀ rest, d.name ≠ qualify "" rest := by simpa [qualify] using relative d declared
  rw [resolve?_of_relative unmarked, arena.get?_eq_some.mpr ⟨declared, rfl⟩] at missing
  simp at missing

theorem fits_ownershipEdges (arena : t.IsArena)
    (relative : ∀ d ∈ t.declarations, ∀ rest, d.name ≠ "::" ++ rest) {e : OwnershipEdge}
    (member : e ∈ t.ownershipEdges) :
    e.source ∈ t.names ∧ (e.resolved = true ↔ e.target ∈ t.names) := by
  refine ⟨(ends_of_ownershipEdges member).1, ?_⟩
  obtain ⟨d, declared, site, name, embeds, binds⟩ := isEdgeOf_of_mem_ownershipEdges member
  rw [binds.resolved, binds.target]
  cases found : t.resolve? name d.name with
  | none => simpa using notMem_names_of_resolve? arena relative found
  | some target => simpa using mem_names (mem_of_resolve? found)

/-- The graph of relations shows all declarations of a merged table and all their uses. -/
theorem showsRelations_of_merge {units : List (UnitRecord String)}
    (merged : merge units = (t, none))
    (relative : ∀ d ∈ t.declarations, ∀ rest, d.name ≠ "::" ++ rest) :
    ShowsRelations t.declarations t.ownershipEdges
        (relationshipGraph t.declarations t.ownershipEdges) ∧
      ∀ c, t.classify.2 = .ok c → c.edges = t.ownershipEdges ∧
        c.graph = relationshipGraph t.declarations t.ownershipEdges := by
  have arena := isArena_of_merge merged
  have fits {e} (member : e ∈ t.ownershipEdges) := fits_ownershipEdges arena relative member
  have whole : relationshipGraph t.declarations t.ownershipEdges =
      ⟨typeNodes t.declarations t.ownershipEdges, typeLinks t.ownershipEdges⟩ := by
    have declared := foldl_addNode [] t.declarations arena.nodup_names
    have related := foldl_addRelation [] t.ownershipEdges fun _ member => fits member
    exact (congrArg (t.ownershipEdges.foldl addRelation) declared).trans related
  refine ⟨?_, fun c classified =>
    ⟨(dependencyOrder_of_classify arena classified).2, graph_of_classify classified⟩⟩
  rw [whole]
  refine showsRelations_drawing fun name member listed => ?_
  obtain ⟨e, used, unresolved, rfl⟩ := mem_undeclared.mp member
  rw [(fits used).2.mpr listed] at unresolved
  cases unresolved

/-- Two declarations with a base that is missing. One points to a third one before it returns it by
value, the other one the other way round. -/
def turnedUses : List (UnitRecord String) :=
  let holding (name : String) (held : SemanticType) (results : List SemanticType) :
      Declaration String :=
    { name, kind := .ordinary, bases := ["Gone"], isFull := true, unit := .null
      methods := results.map fun type =>
        { name := "m", parameters := [], returnType := some type
          isPure := false, isConst := false, visibility := .public }
      fields := [⟨.text "f", held, .text name⟩] }
  let empty (name : String) (isFull : Bool) : Declaration String :=
    { name, kind := .ordinary, bases := [], methods := [], fields := [], isFull, unit := .null }
  let pointer (name : String) : SemanticType := .pointer (.named name false) false
  [{ name := .null
     declarations :=
       [holding "A" (pointer "B") [.named "B" false],
        holding "C" (.named "B" false) [pointer "B", pointer "F"],
        empty "B" true, empty "F" false]
     bodies := [], header := .null }]

theorem showsRelations_turnedUses :
    let t := (merge turnedUses).1
    let g := relationshipGraph t.declarations t.ownershipEdges
    merge turnedUses = (t, none) ∧ (∀ d ∈ t.declarations, ∀ rest, d.name ≠ "::" ++ rest) ∧
      ShowsRelations t.declarations t.ownershipEdges g ∧
        g.nodes = [typeNode "A" "class", typeNode "C" "class", typeNode "B" "class",
          typeNode "F" "forward", typeNode "Gone" "opaque"] ∧
        g.links =
          [⟨.text "A", .text "Gone", [("ownership", .text "referenced")]⟩,
           ⟨.text "A", .text "B", [("ownership", .text "owned")]⟩,
           ⟨.text "C", .text "Gone", [("ownership", .text "referenced")]⟩,
           ⟨.text "C", .text "B", [("ownership", .text "owned")]⟩,
           ⟨.text "C", .text "F", [("ownership", .text "referenced")]⟩] := by
  intro t g
  have merged : merge turnedUses = (t, none) := Prod.ext rfl (by decide +kernel)
  have unmarked : ∀ d ∈ t.declarations, absolute? d.name = none := by decide +kernel
  have relative : ∀ d ∈ t.declarations, ∀ rest, d.name ≠ "::" ++ rest := by
    intro d declared rest
    simpa [qualify] using absolute?_eq_none.mp (unmarked d declared) rest
  exact ⟨merged, relative, (showsRelations_of_merge merged relative).1, by decide +kernel,
    by decide +kernel⟩

end SymbolTable
end Understudy
