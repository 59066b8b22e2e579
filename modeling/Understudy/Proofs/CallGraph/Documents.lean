import Mathlib.Data.Set.List
import Understudy.Graph.Write
import Understudy.Proofs.CallGraph.Calls
import Understudy.Proofs.Graph.Markup
import Understudy.Proofs.Ownership.Relations
import Understudy.Proofs.Value.Writing

/-! Documents of call graphs.

All that a call graph shows are texts, with or without the relations of declarations over it. Main
statement: graphs have one node-link document only if they are the same, and one GraphML document
only if they are the same or some name or kind holds a control character.
-/

set_option autoImplicit false

namespace Understudy

open Understudy.Cpp

namespace Graph

/-- Equality of graphs: the same nodes and the same links with their attributes, in the order in
which a graph lists them. Links of different sources are listed by these, whichever was added
first. -/
structure IsSame (g h : Graph) : Prop where
  nodes : g.nodes = h.nodes
  links : ∀ l, l ∈ g.links ↔ l ∈ h.links
  order : g.grouped = h.grouped

def nodeTexts (n : GraphNode) : List String :=
  (n.id :: n.attributes.map (·.2)).filterMap Value.text?

def linkTexts (l : GraphLink) : List String :=
  (l.source :: l.target :: l.attributes.map (·.2)).filterMap Value.text?

/-- Whether no name or kind holds a control character. -/
def HasClearTexts (g : Graph) : Prop :=
  ∀ s ∈ g.nodes.flatMap nodeTexts ++ g.links.flatMap linkTexts, IsClear s

instance (g : Graph) : Decidable g.HasClearTexts :=
  inferInstanceAs (Decidable (∀ s ∈ g.nodes.flatMap nodeTexts ++ g.links.flatMap linkTexts,
    IsClear s))

end Graph

namespace CallGraph

/-! ## What nodes and links show -/

structure NodeLabel where
  id : String
  label : String
  kind : String
  hasBody : Bool

structure LinkLabel where
  source : String
  target : String
  kind : String

def NodeLabel.node (x : NodeLabel) : GraphNode :=
  ⟨.text x.id,
    [("label", .text x.label), ("kind", .text x.kind), ("has_body", .bool x.hasBody)]⟩

def LinkLabel.link (y : LinkLabel) : GraphLink :=
  ⟨.text y.source, .text y.target, [("kind", .text y.kind)]⟩

def IsNameNode (n : GraphNode) : Prop := ∃ x : NodeLabel, x.node = n

def IsNameLink (l : GraphLink) : Prop := ∃ y : LinkLabel, y.link = l

/-- A graph of names: all that it shows are texts, and which nodes have bodies. -/
def IsNamed (g : Graph) : Prop := g.IsMadeOf IsNameNode IsNameLink

variable {g h : Graph} {bodies : List (FunctionBody String)}

theorem IsNamed.mem_grouped (named : IsNamed g) {l : GraphLink} : l ∈ g.grouped ↔ l ∈ g.links := by
  refine Graph.IsMadeOf.mem_grouped named ?_
  rintro _ ⟨x, rfl⟩
  exact ⟨x.id, rfl⟩

theorem IsNamed.exists_labels (named : IsNamed g) :
    ∃ (xs : List NodeLabel) (ys : List LinkLabel),
      g.nodes = xs.map NodeLabel.node ∧ g.grouped = ys.map LinkLabel.link := by
  have nodes : g.nodes ∈ Set.range (List.map NodeLabel.node) := by
    rw [Set.range_list_map]
    exact named.nodes
  have links : g.grouped ∈ Set.range (List.map LinkLabel.link) := by
    rw [Set.range_list_map]
    exact fun l inside => named.links l (named.mem_grouped.mp inside)
  obtain ⟨xs, shown⟩ := nodes
  obtain ⟨ys, listed⟩ := links
  exact ⟨xs, ys, shown.symm, listed.symm⟩

theorem IsNamed.isSame (named : IsNamed g) (other : IsNamed h) (nodes : g.nodes = h.nodes)
    (order : g.grouped = h.grouped) : g.IsSame h :=
  ⟨nodes, fun l => by rw [← named.mem_grouped, order, other.mem_grouped], order⟩

/-! ## Node-link documents -/

theorem nodeRecord_node (x : NodeLabel) :
    Graph.nodeRecord x.node = .object [("label", .text x.label), ("kind", .text x.kind),
      ("has_body", .bool x.hasBody), ("id", .text x.id)] := by
  rfl

theorem linkRecord_link (y : LinkLabel) :
    Graph.linkRecord y.link = .object [("kind", .text y.kind), ("source", .text y.source),
      ("target", .text y.target)] := by
  rfl

theorem nodeRecord_injective : Function.Injective fun x : NodeLabel => Graph.nodeRecord x.node := by
  rintro ⟨⟩ ⟨⟩ same
  simpa [nodeRecord_node, and_assoc, and_comm, and_left_comm] using same

theorem linkRecord_injective : Function.Injective fun y : LinkLabel => Graph.linkRecord y.link := by
  rintro ⟨⟩ ⟨⟩ same
  simpa [linkRecord_link, and_assoc, and_comm, and_left_comm] using same

theorem IsNamed.isWorded (named : IsNamed g) : g.toNodeLink.isWorded = true := by
  have nodes : ∀ n ∈ g.nodes, (Graph.nodeRecord n).isWorded = true := by
    intro n inside
    obtain ⟨x, rfl⟩ := named.nodes n inside
    rfl
  have links : ∀ l ∈ g.grouped, (Graph.linkRecord l).isWorded = true := by
    intro l inside
    obtain ⟨y, rfl⟩ := named.links l (named.mem_grouped.mp inside)
    rfl
  simpa [Graph.toNodeLink, Value.isWorded, Value.haveWorded, Value.areWorded_iff] using
    ⟨nodes, links⟩

theorem IsNamed.isSame_of_nodeLink (named : IsNamed g) (other : IsNamed h)
    (same : g.toNodeLinkText = h.toNodeLinkText) : g.IsSame h := by
  have records := Value.eq_of_indented_eq named.isWorded other.isWorded same
  obtain ⟨xs, ys, nodes, links⟩ := named.exists_labels
  obtain ⟨xs', ys', nodes', links'⟩ := other.exists_labels
  simp only [Graph.toNodeLink, nodes, links, nodes', links', List.map_map, Value.object.injEq,
    Value.list.injEq, List.cons.injEq, Prod.mk.injEq, true_and, and_true] at records
  obtain rfl := nodeRecord_injective.list_map records.1
  obtain rfl := linkRecord_injective.list_map records.2
  exact named.isSame other (nodes.trans nodes'.symm) (links.trans links'.symm)

/-! ## GraphML documents -/

def NodeLabel.line (x : NodeLabel) : String × List (Graph.MarkupKey × String) :=
  (x.id, [(⟨"label", "string", "node"⟩, x.label), (⟨"kind", "string", "node"⟩, x.kind),
    (⟨"has_body", "boolean", "node"⟩, if x.hasBody then "True" else "False")])

def LinkLabel.line (y : LinkLabel) : (String × String) × List (Graph.MarkupKey × String) :=
  ((y.source, y.target), [(⟨"kind", "string", "edge"⟩, y.kind)])

theorem line_injective_node : Function.Injective NodeLabel.line := by
  rintro ⟨_, _, _, a⟩ ⟨_, _, _, b⟩ same
  cases a <;> cases b <;> simp_all [NodeLabel.line]

theorem line_injective_link : Function.Injective LinkLabel.line := by
  rintro ⟨⟩ ⟨⟩ same
  simpa [LinkLabel.line, and_assoc] using same

theorem sheet_eq {xs : List NodeLabel} {ys : List LinkLabel}
    (nodes : g.nodes = xs.map NodeLabel.node) (links : g.grouped = ys.map LinkLabel.link) :
    g.sheet = .ok ⟨xs.map NodeLabel.line, ys.map LinkLabel.line⟩ := by
  have node_lines : (xs.map NodeLabel.node).mapM (fun n => do
      return (n.id.shown, ← Graph.keyed "node" n.attributes)) = .ok (xs.map NodeLabel.line) := by
    rw [List.mapM_map]
    exact List.mapM_pure
  have link_lines : (ys.map LinkLabel.link).mapM (fun l => do
      return ((l.source.shown, l.target.shown), ← Graph.keyed "edge" l.attributes)) =
        .ok (ys.map LinkLabel.line) := by
    rw [List.mapM_map]
    exact List.mapM_pure
  unfold Graph.sheet
  rw [nodes, links, node_lines, link_lines]
  rfl

theorem isClear_sheet {xs : List NodeLabel} {ys : List LinkLabel}
    (nodes : ∀ x ∈ xs, ∀ s ∈ [x.id, x.label, x.kind], Graph.IsClear s)
    (links : ∀ y ∈ ys, ∀ s ∈ [y.source, y.target, y.kind], Graph.IsClear s) :
    (Graph.Sheet.mk (xs.map NodeLabel.line) (ys.map LinkLabel.line)).IsClear := by
  refine ⟨?keys, ?nodes, ?links⟩
  case keys =>
    intro key inside
    have known : ∀ key ∈ [⟨"label", "string", "node"⟩, ⟨"kind", "string", "node"⟩,
        ⟨"has_body", "boolean", "node"⟩, ⟨"kind", "string", "edge"⟩],
        Graph.MarkupKey.IsClear key := by
      decide
    rw [Graph.Sheet.keys, List.mem_eraseDups] at inside
    obtain ⟨d, listed, rfl⟩ := List.mem_map.mp inside
    simp only [List.mem_append, List.mem_flatMap, List.mem_map] at listed
    rcases listed with ⟨_, ⟨x, _, rfl⟩, among⟩ | ⟨_, ⟨y, _, rfl⟩, among⟩
    · simp only [NodeLabel.line, List.mem_cons, List.not_mem_nil, or_false] at among
      rcases among with rfl | rfl | rfl <;> exact known _ (by simp)
    · rw [LinkLabel.line, List.mem_singleton] at among
      subst among
      exact known _ (by simp)
  case nodes =>
    rw [List.forall_mem_map]
    intro x inside
    have clear := nodes x inside
    simp only [List.forall_mem_cons] at clear
    have marked : Graph.IsClear (if x.hasBody then "True" else "False") := by
      split <;> decide
    simp [NodeLabel.line, clear, marked]
  case links =>
    rw [List.forall_mem_map]
    intro y inside
    have clear := links y inside
    simp only [List.forall_mem_cons] at clear
    simp [LinkLabel.line, clear]

/-- A graph of names has a GraphML document: its sheet, with line ends unified. Without control
characters that changes nothing. -/
theorem IsNamed.exists_sheet (named : IsNamed g) :
    ∃ (xs : List NodeLabel) (ys : List LinkLabel) (s : Graph.Sheet),
      g.nodes = xs.map NodeLabel.node ∧ g.grouped = ys.map LinkLabel.link ∧
        s = ⟨xs.map NodeLabel.line, ys.map LinkLabel.line⟩ ∧
          g.toMarkup = .ok (String.ofList (Graph.splitLineEnds s.document.toList)) ∧
            (g.HasClearTexts → Graph.splitLineEnds s.document.toList = s.document.toList) := by
  obtain ⟨xs, ys, nodes, links⟩ := named.exists_labels
  refine ⟨xs, ys, _, nodes, links, rfl, ?written, fun clear => ?unbroken⟩
  case written =>
    rw [Graph.toMarkup, sheet_eq nodes links]
    rfl
  case unbroken =>
    -- Every text of the sheet is one that the graph holds.
    refine Graph.splitLineEnds_eq_self (isClear_sheet (fun x inside s listed => ?_)
      fun y inside s listed => ?_).areLines
    · refine clear s (List.mem_append_left _ (List.mem_flatMap.mpr ⟨x.node, ?_, listed⟩))
      rw [nodes]
      exact List.mem_map_of_mem inside
    · refine clear s (List.mem_append_right _ (List.mem_flatMap.mpr ⟨y.link, ?_, listed⟩))
      rw [← named.mem_grouped, links]
      exact List.mem_map_of_mem inside

theorem links_eq_nil {xs : List NodeLabel} {ys : List LinkLabel}
    (nodes : g.nodes = xs.map NodeLabel.node) (links : g.grouped = ys.map LinkLabel.link)
    (bare : xs.map NodeLabel.line = []) : ys.map LinkLabel.line = [] := by
  rw [List.map_eq_nil_iff] at bare ⊢
  rw [bare, List.map_nil] at nodes
  rwa [Graph.grouped, nodes, List.flatMap_nil, eq_comm, List.map_eq_nil_iff] at links

theorem IsNamed.isSame_of_markup (named : IsNamed g) (other : IsNamed h) :
    ∃ d e, g.toMarkup = .ok d ∧ h.toMarkup = .ok e ∧
      (g.HasClearTexts → h.HasClearTexts → d = e → g.IsSame h) := by
  obtain ⟨xs, ys, s, nodes, links, rfl, document, unbroken⟩ := named.exists_sheet
  obtain ⟨xs', ys', t, nodes', links', rfl, document', unbroken'⟩ := other.exists_sheet
  refine ⟨_, _, document, document', fun clear also same => ?_⟩
  rw [unbroken clear, unbroken' also, String.ofList_toList, String.ofList_toList] at same
  have sheets := Graph.Sheet.document_inj (links_eq_nil nodes links) (links_eq_nil nodes' links')
    same
  obtain rfl := line_injective_node.list_map (congrArg Graph.Sheet.nodes sheets)
  obtain rfl := line_injective_link.list_map (congrArg Graph.Sheet.links sheets)
  exact named.isSame other (nodes.trans nodes'.symm) (links.trans links'.symm)

/-! ## Call graphs show names -/

/-- Bodies whose kinds and callees are texts, as their names are. -/
def AreWorded (bodies : List (FunctionBody String)) : Prop :=
  ∀ b ∈ bodies, b.kind.isText = true ∧ ∀ callee ∈ CallSite.preorderAll b.calls, callee.isText = true

theorem exists_text_of_mentioned (worded : AreWorded bodies) {v : Value}
    (named : v ∈ mentioned bodies) : ∃ s, v = .text s := by
  obtain ⟨b, inside, own⟩ := List.mem_flatMap.mp named
  rcases List.mem_cons.mp own with rfl | called
  · exact ⟨b.name, rfl⟩
  · exact Value.exists_text_of_isText ((worded b inside).2 v called)

theorem IsCallGraph.hasNode_of_mentioned (shown : IsCallGraph bodies g) {v : Value}
    (named : v ∈ mentioned bodies) : g.hasNode v = true := by
  have ids : g.hasNode v = (g.nodes.map (·.id)).any (·.alike v) := by
    rw [List.any_map]
    rfl
  rw [ids, shown.nodes, Value.any_distinct, List.any_eq_true]
  exact ⟨v, named, Value.alike_refl v⟩

theorem isNamed_of_isCallGraph (shown : IsCallGraph bodies g) (worded : AreWorded bodies) :
    IsNamed g := by
  -- The target of a link is a successor of its source, so some body of that name calls it.
  have ends : ∀ l ∈ g.links, (∃ b ∈ bodies, l.source = .text b.name ∧
      l.target ∈ CallSite.preorderAll b.calls) := by
    intro l inside
    obtain ⟨_, b, listed, source⟩ := shown.calls l inside
    have target : l.target ∈ (g.linksFrom (.text b.name)).map (·.target) := by
      refine List.mem_map_of_mem (List.mem_filter.mpr ⟨inside, ?_⟩)
      rw [source, Value.alike_refl]
    rw [shown.successors] at target
    obtain ⟨c, own, called⟩ := List.mem_flatMap.mp (Value.mem_of_mem_distinct target)
    obtain ⟨among, same⟩ := List.mem_filter.mp own
    refine ⟨c, among, ?_, called⟩
    rw [source, beq_iff_eq.mp same]
  refine ⟨?nodes, ?links, ?joined⟩
  case nodes =>
    intro n inside
    have met : n.id ∈ mentioned bodies := by
      refine Value.mem_of_mem_distinct ?_
      rw [← shown.nodes]
      exact List.mem_map_of_mem inside
    obtain ⟨s, goes⟩ := exists_text_of_mentioned worded met
    cases shown.marked n inside with
    | @defined before after b split first =>
      have listed : b ∈ bodies := split ▸ List.mem_append_right _ List.mem_cons_self
      obtain ⟨kind, spelled⟩ := Value.exists_text_of_isText (worded b listed).1
      exact ⟨⟨b.name, b.name, kind, true⟩, by rw [NodeLabel.node, spelled]⟩
    | external _ =>
      dsimp only at goes
      exact ⟨⟨s, s, "external", false⟩, by rw [NodeLabel.node, goes]⟩
  case links =>
    intro l inside
    obtain ⟨b, listed, source, called⟩ := ends l inside
    obtain ⟨s, target⟩ := Value.exists_text_of_isText ((worded b listed).2 _ called)
    refine ⟨⟨b.name, s, "call"⟩, ?_⟩
    rw [LinkLabel.link, ← source, ← target, ← (shown.calls l inside).1]
  case joined =>
    intro l inside
    obtain ⟨b, listed, source, called⟩ := ends l inside
    have named {v : Value} (own : v ∈ .text b.name :: CallSite.preorderAll b.calls) :
        v ∈ mentioned bodies :=
      List.mem_flatMap.mpr ⟨b, listed, own⟩
    rw [source]
    exact ⟨shown.hasNode_of_mentioned (named List.mem_cons_self),
      shown.hasNode_of_mentioned (named (List.mem_cons_of_mem _ called))⟩

/-! ## Relations over a call graph -/

theorem grows_overlayNode (g : Graph) {n : GraphNode} (formed : IsTypeNode n) :
    Graph.Grows IsNameNode IsNameLink [] [n.id] g
      (if g.hasNode n.id then g else g.addNode n.id (typeNode n)) := by
  obtain ⟨id, label, kind, rfl⟩ := formed
  split
  next known => exact Graph.grows_of_hasNode known
  next =>
    refine Graph.grows_addNode ⟨⟨id, label, kind, false⟩, rfl⟩ ?_
    rintro _ ⟨x, rfl⟩ _
    exact ⟨⟨x.id, label, kind, false⟩, rfl⟩

theorem grows_overlayLink (g : Graph) {l : GraphLink} (formed : IsTypeLink l) :
    Graph.Grows IsNameNode IsNameLink [l.source, l.target] [] g
      (if g.hasLink l.source l.target then g
        else g.addLink l.source l.target
          [("kind", (l.attributes.get? "ownership").getD .null)]) := by
  obtain ⟨source, target, ownership, rfl⟩ := formed
  split
  · exact (Graph.grows_refl [] g).mono (List.nil_subset _) (List.Subset.refl _)
  · refine Graph.grows_addLink ⟨⟨source, target, ownership.keyword⟩, rfl⟩ ?_
    rintro _ ⟨y, rfl⟩ _
    exact ⟨⟨y.source, y.target, ownership.keyword⟩, rfl⟩

theorem IsNamed.overlay (named : IsNamed g) {types : Graph}
    (formed : types.IsMadeOf IsTypeNode IsTypeLink) : IsNamed (overlay g types) := by
  have goes : ∀ n, IsTypeNode n → ∃ s, n.id = .text s := by
    rintro _ ⟨id, _, _, rfl⟩
    exact ⟨id, rfl⟩
  have nodes := Graph.grows_foldl types.nodes
    (fun g n inside => grows_overlayNode g (formed.nodes n inside)) g
  have links := Graph.grows_foldl types.grouped
    (fun g l inside => grows_overlayLink g (formed.links l ((formed.mem_grouped goes).mp inside)))
    (types.nodes.foldl (fun g n => if g.hasNode n.id then g else g.addNode n.id (typeNode n)) g)
  have all := nodes.trans links ?_
  · exact (all named (by simp)).1
  · intro v inside
    obtain ⟨l, listed, own⟩ := List.mem_flatMap.mp inside
    obtain ⟨source, target⟩ := formed.joined l ((formed.mem_grouped goes).mp listed)
    -- Both ends are nodes of the declarations, and all of these are in the graph by now.
    have known : types.hasNode v = true := by
      simp only [List.mem_cons, List.not_mem_nil, or_false] at own
      rcases own with rfl | rfl
      · exact source
      · exact target
    obtain ⟨n, among, rfl⟩ := List.mem_map.mp (formed.mem_ids goes known)
    exact List.mem_append_right _ (List.mem_flatMap.mpr ⟨n, among, List.mem_singleton_self _⟩)

/-! ## Telling graphs apart -/

/-- The call graphs of bodies, also with the relations of classified declarations over them. -/
inductive IsDrawn : Graph → Prop where
  | build {bodies : List (FunctionBody String)} {g : Graph} :
      AreWorded bodies → build bodies = .ok g → IsDrawn g
  | overlay {g : Graph} {t : SymbolTable} {c : Classification} :
      IsDrawn g → t.classify.2 = .ok c → IsDrawn (overlay g c.graph)

theorem IsDrawn.isNamed (drawn : IsDrawn g) : IsNamed g := by
  induction drawn with
  | @build bodies g worded built =>
    unfold CallGraph.build at built
    split at built
    next => cases built
    next =>
      cases built
      exact isNamed_of_isCallGraph (isCallGraph_ofBodies bodies) worded
  | overlay _ classified ih =>
    rw [graph_of_classify classified]
    exact ih.overlay (isMadeOf_relationshipGraph fun e inside => (ends_of_ownershipEdges inside).1)

/-- Call graphs with one node-link document are the same. All have GraphML documents, and with one
of those, too, they are the same unless some name or kind holds a control character. -/
theorem isSame_of_documents (drawn : IsDrawn g) (other : IsDrawn h) :
    (g.toNodeLinkText = h.toNodeLinkText → g.IsSame h) ∧
      ∃ d e, g.toMarkup = .ok d ∧ h.toMarkup = .ok e ∧
        (g.HasClearTexts → h.HasClearTexts → d = e → g.IsSame h) :=
  ⟨drawn.isNamed.isSame_of_nodeLink other.isNamed, drawn.isNamed.isSame_of_markup other.isNamed⟩

def calling (callee : String) : List (FunctionBody String) :=
  [⟨"A", .text "method", [.mk (.text callee) [] []], .null⟩]

def returns : Graph :=
  let t := (SymbolTable.merge SymbolTable.mutualReturns).1
  relationshipGraph t.declarations t.ownershipEdges

theorem isDrawn_calling (callee : String) :
    IsDrawn (overlay (ofBodies (calling callee)) returns) := by
  have worded : AreWorded (calling callee) := by
    simp [AreWorded, calling, CallSite.preorderAll, CallSite.preorder, Value.isText, Value.text?]
  have built : build (calling callee) = .ok (ofBodies (calling callee)) :=
    build_eq (by simp [calling, CallSite.preorderAll, CallSite.preorder, Graph.nodeSlip?])
  have ordered : (SymbolTable.merge SymbolTable.mutualReturns).1.classify.2.toOption.isSome := by
    rfl
  cases classified : (SymbolTable.merge SymbolTable.mutualReturns).1.classify.2 with
  | error fault =>
    rw [classified] at ordered
    cases ordered
  | ok c =>
    rw [returns, ← graph_of_classify classified]
    exact (IsDrawn.build worded built).overlay classified

/-- A name is told from the name that it is escaped to. -/
theorem isSame_of_documents_escaped :
    ∃ g h : Graph, g = overlay (ofBodies (calling "a<b")) returns ∧
      h = overlay (ofBodies (calling "a&lt;b")) returns ∧ IsDrawn g ∧ IsDrawn h ∧
        g.HasClearTexts ∧ h.HasClearTexts ∧ g.toNodeLinkText ≠ h.toNodeLinkText ∧
          g.toMarkup ≠ h.toMarkup := by
  have apart : (overlay (ofBodies (calling "a<b")) returns).nodes ≠
      (overlay (ofBodies (calling "a&lt;b")) returns).nodes := by
    decide +kernel
  have clear : (overlay (ofBodies (calling "a<b")) returns).HasClearTexts ∧
      (overlay (ofBodies (calling "a&lt;b")) returns).HasClearTexts := by
    decide +kernel
  obtain ⟨records, d, e, document, document', tells⟩ :=
    isSame_of_documents (isDrawn_calling "a<b") (isDrawn_calling "a&lt;b")
  refine ⟨_, _, rfl, rfl, isDrawn_calling _, isDrawn_calling _, clear.1, clear.2,
    fun same => apart (records same).nodes, fun same => ?_⟩
  rw [document, document'] at same
  exact apart (tells clear.1 clear.2 (Except.ok.inj same)).nodes

end CallGraph
end Understudy
