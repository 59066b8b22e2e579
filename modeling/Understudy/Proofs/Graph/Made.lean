import Understudy.Graph.Basic

/-! Graphs made of nodes and links of certain forms.

Forms are kept by adding if what is added has them, also where it is laid over what is there. Where
nodes go by texts, grouping links by their sources changes none of them.
-/

set_option autoImplicit false

namespace Understudy.Graph

variable {node : GraphNode → Prop} {link : GraphLink → Prop} {g : Graph} {id source target : Value}
  {attributes : Entries}

/-- A graph whose nodes and links have certain forms, and whose links join nodes. -/
structure IsMadeOf (node : GraphNode → Prop) (link : GraphLink → Prop) (g : Graph) : Prop where
  nodes : ∀ n ∈ g.nodes, node n
  links : ∀ l ∈ g.links, link l
  joined : ∀ l ∈ g.links, g.hasNode l.source = true ∧ g.hasNode l.target = true

theorem isMadeOf_empty : IsMadeOf node link .empty :=
  ⟨by simp [empty], by simp [empty], by simp [empty]⟩

theorem hasNode_addNode (g : Graph) (id : Value) (attributes : Entries) (v : Value) :
    (g.addNode id attributes).hasNode v = (g.hasNode v || id.alike v) := by
  unfold addNode
  split
  next here =>
    have same : (g.nodes.map fun n =>
        if n.id.alike id then { n with attributes := Entries.update n.attributes attributes }
        else n).any (·.id.alike v) = g.hasNode v := by
      rw [List.any_map, hasNode]
      congr 1
      funext n
      dsimp only [Function.comp_apply]
      split <;> rfl
    rw [hasNode, same]
    cases alike : id.alike v with
    | false => rw [Bool.or_false]
    | true =>
      obtain ⟨n, inside, like⟩ := List.any_eq_true.mp here
      rw [hasNode, List.any_eq_true.mpr ⟨n, inside, Value.alike_trans like alike⟩]
      rfl
  next =>
    rw [hasNode, List.any_append, List.any_cons, List.any_nil, Bool.or_false]
    rfl

/-! ## Growth -/

/-- A graph of certain forms in which some values are nodes becomes one in which others are, too. -/
def Grows (node : GraphNode → Prop) (link : GraphLink → Prop) (needs adds : List Value)
    (g h : Graph) : Prop :=
  g.IsMadeOf node link → (∀ v ∈ needs, g.hasNode v = true) →
    h.IsMadeOf node link ∧ ∀ v, g.hasNode v = true ∨ v ∈ adds → h.hasNode v = true

theorem grows_refl (needs : List Value) (g : Graph) : Grows node link needs needs g g :=
  fun made met => ⟨made, fun v known => known.elim id (met v)⟩

theorem grows_of_hasNode {v : Value} (known : g.hasNode v = true) : Grows node link [] [v] g g :=
  fun made _ =>
    ⟨made, fun _ either => either.elim id fun here => List.mem_singleton.mp here ▸ known⟩

theorem Grows.mono {needs adds more fewer : List Value} {h : Graph}
    (grown : Grows node link needs adds g h) (met : needs ⊆ more) (kept : fewer ⊆ adds) :
    Grows node link more fewer g h := by
  intro made known
  obtain ⟨after, nodes⟩ := grown made fun v inside => known v (met inside)
  exact ⟨after, fun v either => nodes v (either.imp_right fun inside => kept inside)⟩

theorem Grows.trans {needs adds more others : List Value} {h k : Graph}
    (first : Grows node link needs adds g h) (later : Grows node link more others h k)
    (met : more ⊆ needs ++ adds) : Grows node link needs (adds ++ others) g k := by
  intro made known
  obtain ⟨between, kept⟩ := first made known
  obtain ⟨after, nodes⟩ := later between fun v inside => kept v
    ((List.mem_append.mp (met inside)).imp_left (known v))
  refine ⟨after, fun v either => nodes v ?_⟩
  rw [List.mem_append] at either
  rcases either with before | added | last
  · exact .inl (kept v (.inl before))
  · exact .inl (kept v (.inr added))
  · exact .inr last

theorem grows_foldl {α : Type} {step : Graph → α → Graph} {needs adds : α → List Value}
    (items : List α)
    (each : ∀ g, ∀ a ∈ items, Grows node link (needs a) (adds a) g (step g a)) (g : Graph) :
    Grows node link (items.flatMap needs) (items.flatMap adds) g (items.foldl step g) := by
  induction items generalizing g with
  | nil => exact grows_refl [] g
  | cons a items ih =>
    rw [List.flatMap_cons, List.flatMap_cons, List.foldl_cons]
    have first := (each g a List.mem_cons_self).mono
      (List.subset_append_left _ (items.flatMap needs)) (List.Subset.refl _)
    refine first.trans (ih (fun g b inside => each g b (List.mem_cons_of_mem _ inside)) _) ?_
    exact fun v inside => List.mem_append_left _ (List.mem_append_right _ inside)

theorem grows_addNode (fresh : node ⟨id, attributes⟩)
    (again : ∀ n, node n → n.id.alike id = true →
      node { n with attributes := Entries.update n.attributes attributes }) :
    Grows node link [] [id] g (g.addNode id attributes) := by
  intro made _
  have links : (g.addNode id attributes).links = g.links := by
    unfold Graph.addNode
    split <;> rfl
  refine ⟨⟨?nodes, ?links, ?joined⟩, ?kept⟩
  case nodes =>
    unfold Graph.addNode
    split
    · rw [List.forall_mem_map]
      intro n inside
      split
      next same => exact again n (made.nodes n inside) same
      next => exact made.nodes n inside
    · rw [List.forall_mem_append, List.forall_mem_singleton]
      exact ⟨made.nodes, fresh⟩
  case links =>
    rw [links]
    exact made.links
  case joined =>
    rw [links]
    intro l inside
    obtain ⟨source, target⟩ := made.joined l inside
    rw [hasNode_addNode, hasNode_addNode, source, target]
    exact ⟨rfl, rfl⟩
  case kept =>
    rintro v (before | here)
    · rw [hasNode_addNode, before, Bool.true_or]
    · rw [hasNode_addNode, List.mem_singleton.mp here, Value.alike_refl, Bool.or_true]

theorem addLink_eq (source_node : g.hasNode source = true) (target_node : g.hasNode target = true) :
    g.addLink source target attributes = ⟨g.nodes, if g.hasLink source target then
      g.links.map fun l =>
        if l.joins source target then
          { l with attributes := Entries.update l.attributes attributes }
        else l
      else g.links ++ [⟨source, target, attributes⟩]⟩ := by
  unfold addLink ensureNode
  simp only [source_node, target_node, if_true]
  split <;> rfl

theorem grows_addLink (fresh : link ⟨source, target, attributes⟩)
    (again : ∀ l, link l → l.joins source target = true →
      link { l with attributes := Entries.update l.attributes attributes }) :
    Grows node link [source, target] [] g (g.addLink source target attributes) := by
  intro made known
  -- Both ends are there, so that no bare node is added for them.
  obtain ⟨source_node, target_node⟩ : g.hasNode source = true ∧ g.hasNode target = true := by
    simpa using known
  rw [addLink_eq source_node target_node]
  refine ⟨⟨made.nodes, ?links, ?joined⟩, ?kept⟩
  case links =>
    dsimp only
    split
    · rw [List.forall_mem_map]
      intro l inside
      split
      next same => exact again l (made.links l inside) same
      next => exact made.links l inside
    · rw [List.forall_mem_append, List.forall_mem_singleton]
      exact ⟨made.links, fresh⟩
  case joined =>
    dsimp only
    split
    · rw [List.forall_mem_map]
      intro l inside
      split <;> exact made.joined l inside
    · rw [List.forall_mem_append, List.forall_mem_singleton]
      exact ⟨made.joined, source_node, target_node⟩
  case kept => exact fun v before => before.elim id fun none => absurd none List.not_mem_nil

/-! ## Grouping -/

theorem IsMadeOf.mem_ids (made : g.IsMadeOf node link) (named : ∀ n, node n → ∃ s, n.id = .text s)
    {v : Value} (known : g.hasNode v = true) : v ∈ g.nodes.map (·.id) := by
  obtain ⟨n, inside, like⟩ := List.any_eq_true.mp known
  obtain ⟨s, goes⟩ := named n (made.nodes n inside)
  rw [goes, Value.alike_comm] at like
  rw [Value.eq_text_of_alike like, ← goes]
  exact List.mem_map_of_mem inside

theorem IsMadeOf.mem_grouped (made : g.IsMadeOf node link)
    (named : ∀ n, node n → ∃ s, n.id = .text s) {l : GraphLink} :
    l ∈ g.grouped ↔ l ∈ g.links := by
  simp only [grouped, linksFrom, List.mem_flatMap, List.mem_map, List.mem_filter]
  constructor
  · rintro ⟨n, inside, k, ⟨listed, leaves⟩, rfl⟩
    obtain ⟨s, goes⟩ := named n (made.nodes n inside)
    rw [goes] at leaves ⊢
    rwa [← Value.eq_text_of_alike leaves]
  · intro listed
    obtain ⟨n, inside, goes⟩ := List.mem_map.mp (made.mem_ids named (made.joined l listed).1)
    refine ⟨n, inside, l, ⟨listed, ?_⟩, ?_⟩
    · rw [goes, Value.alike_refl]
    · rw [goes]

end Understudy.Graph
