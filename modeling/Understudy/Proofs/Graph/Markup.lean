import Understudy.Graph.Markup
import Understudy.Proofs.Text.Marked

/-! What GraphML documents are told by.

Every part of a document is told from whatever follows it: a character by its spelling, a text by
the mark that ends it, an element by how its lines begin. Main statement: documents are equal only
if they say the same. Line ends are unified in the finished text, so this is about texts without
control characters.
-/

set_option autoImplicit false

namespace Understudy.Graph

/-! ## Characters -/

def referred : List Char → Nat
  | '#' :: digits => Nat.ofDigitChars 10 digits 0
  | ['a', 'm', 'p'] => '&'.toNat
  | ['l', 't'] => '<'.toNat
  | ['g', 't'] => '>'.toNat
  | _ => '"'.toNat

def AreSigns (name : List Char) : Prop := ∀ sign ∈ name, 0x20 ≤ sign.toNat ∧ sign ≠ ';'

instance (name : List Char) : Decidable (AreSigns name) := List.decidableBAll _ _

/-- How a character is spelled where a mark ends the text: as itself, if it is neither the mark
nor starts a reference, or by a reference. -/
inductive IsSpelling (mark c : Char) : List Char → Prop where
  | itself : c ≠ '&' → c ≠ mark → IsSpelling mark c [c]
  | reference (name : List Char) : AreSigns name → referred name = c.toNat →
      IsSpelling mark c ('&' :: name ++ [';'])

variable {mark c d : Char} {rest others : List Char}

theorem IsSpelling.inj {word other : List Char} (spelled : IsSpelling mark c word)
    (also : IsSpelling mark d other) (same : word ++ rest = other ++ others) :
    c = d ∧ rest = others := by
  cases spelled with
  | itself plain _ =>
    cases also with
    | itself => exact List.cons.inj same
    | reference => exact absurd (List.cons.inj same).1 plain
  | reference name signs named =>
    cases also with
    | itself plain _ => exact absurd (List.cons.inj same).1.symm plain
    | reference name' signs' named' =>
      rw [List.append_assoc, List.append_assoc] at same
      obtain ⟨rfl, rests⟩ := Text.append_mark_inj (fun inside => (signs _ inside).2 rfl)
        (fun inside => (signs' _ inside).2 rfl) (List.cons.inj same).2
      exact ⟨Char.toNat_inj.mp (named.symm.trans named'), rests⟩

theorem flatMap_spelling_inj {write : Char → List Char} (apart : mark ≠ '&')
    (spelled : ∀ c, IsSpelling mark c (write c)) {s t : List Char}
    (same : s.flatMap write ++ mark :: rest = t.flatMap write ++ mark :: others) :
    s = t ∧ rest = others := by
  have unmarked (c : Char) (r tail : List Char) : write c ++ r ≠ mark :: tail := by
    generalize write c = word, spelled c = spelling
    cases spelling with
    | itself _ other => exact fun same => other (List.cons.inj same).1
    | reference => exact fun same => apart (List.cons.inj same).1.symm
  obtain ⟨texts, rests⟩ := Text.flatMap_inj (fun c _ d _ _ _ => (spelled c).inj (spelled d))
    (fun c _ r => unmarked c r others) (fun c _ r => unmarked c r rest) same
  exact ⟨texts, (List.cons.inj rests).2⟩

theorem areSigns_toDigits (n : Nat) : AreSigns (Nat.toDigits 10 n) := by
  intro sign inside
  have digit := Nat.isDigit_of_mem_toDigits (by decide) (by decide) inside
  rw [Char.isDigit_iff_toNat] at digit
  refine ⟨Nat.le_trans (by decide) digit.1, ?_⟩
  rintro rfl
  exact absurd digit (by decide)

theorem isSpelling_asciiChar (plain : c ≠ '&') (other : c ≠ mark) :
    IsSpelling mark c (asciiChar c) := by
  unfold asciiChar
  split
  next => exact .itself plain other
  next =>
    have signs : AreSigns ('#' :: Nat.toDigits 10 c.toNat) :=
      List.forall_mem_cons.mpr ⟨by decide, areSigns_toDigits c.toNat⟩
    have spelled : IsSpelling mark c _ := .reference _ signs Nat.ofDigitChars_ten_toDigits
    simpa using spelled

theorem isSpelling_of_beq (name : List Char) (same : (c == d) = true)
    (signs : AreSigns name) (named : referred name = d.toNat) :
    IsSpelling mark c ('&' :: name ++ [';']) := by
  obtain rfl := beq_iff_eq.mp same
  exact .reference name signs named

theorem isSpelling_textChar (c : Char) : IsSpelling '<' c (textChar c) := by
  unfold textChar
  split
  next same => exact isSpelling_of_beq ['a', 'm', 'p'] same (by decide) rfl
  next plain =>
  split
  next same => exact isSpelling_of_beq ['l', 't'] same (by decide) rfl
  next other =>
  split
  next same => exact isSpelling_of_beq ['g', 't'] same (by decide) rfl
  next => exact isSpelling_asciiChar (by simpa using plain) (by simpa using other)

theorem isSpelling_attributeChar (c : Char) : IsSpelling '"' c (attributeChar c) := by
  unfold attributeChar
  split
  next same => exact isSpelling_of_beq ['a', 'm', 'p'] same (by decide) rfl
  next plain =>
  split
  next same => exact isSpelling_of_beq ['l', 't'] same (by decide) rfl
  split
  next same => exact isSpelling_of_beq ['g', 't'] same (by decide) rfl
  split
  next same => exact isSpelling_of_beq ['q', 'u', 'o', 't'] same (by decide) rfl
  next other =>
  split
  next same => exact isSpelling_of_beq ['#', '1', '3'] same (by decide) rfl
  split
  next same => exact isSpelling_of_beq ['#', '1', '0'] same (by decide) rfl
  split
  next same => exact isSpelling_of_beq ['#', '0', '9'] same (by decide) rfl
  next => exact isSpelling_asciiChar (by simpa using plain) (by simpa using other)

/-! ## Lines -/

theorem escapeText_inj {s t : String}
    (same : (escapeText s).toList ++ '<' :: rest = (escapeText t).toList ++ '<' :: others) :
    s = t ∧ rest = others := by
  rw [escapeText, escapeText, String.toList_ofList, String.toList_ofList] at same
  obtain ⟨texts, rests⟩ := flatMap_spelling_inj (by decide) isSpelling_textChar same
  exact ⟨String.toList_injective texts, rests⟩

theorem attr_inj {name v w : String}
    (same : (attr name v).toList ++ rest = (attr name w).toList ++ others) :
    v = w ∧ rest = others := by
  simp only [attr, escapeAttribute, String.toList_append, String.toList_ofList, List.append_assoc,
    List.append_cancel_left_eq] at same
  obtain ⟨texts, rests⟩ := flatMap_spelling_inj (by decide) isSpelling_attributeChar same
  exact ⟨String.toList_injective texts, rests⟩

theorem attr_number_inj {name : String} {m n : Nat}
    (same : (attr name ("d" ++ toString m)).toList ++ rest =
      (attr name ("d" ++ toString n)).toList ++ others) : m = n ∧ rest = others := by
  obtain ⟨texts, rests⟩ := attr_inj same
  exact ⟨Text.toString_inj ((String.append_right_inj "d").mp texts), rests⟩

theorem keyLine_inj {key other : MarkupKey} {m n : Nat}
    (same : (keyLine key m).toList ++ rest = (keyLine other n).toList ++ others) :
    (key, m) = (other, n) ∧ rest = others := by
  simp only [keyLine, String.toList_append, List.append_assoc, List.append_cancel_left_eq]
    at same
  obtain ⟨rfl, scope⟩ := attr_number_inj same
  obtain ⟨scopes, name⟩ := attr_inj scope
  obtain ⟨names, type⟩ := attr_inj name
  obtain ⟨types, rests⟩ := attr_inj type
  cases key
  cases other
  simp_all

variable {keys : List MarkupKey}

theorem dataLine_inj {key other : MarkupKey} {s t : String} (listed : key ∈ keys)
    (same : (dataLine keys key s).toList ++ rest = (dataLine keys other t).toList ++ others) :
    (key, s) = (other, t) ∧ rest = others := by
  have key_eq (numbers : keys.idxOf key = keys.idxOf other) : key = other :=
    (List.idxOf_inj listed).mp numbers
  unfold dataLine at same
  -- An empty text closes its line where another one starts.
  by_cases empty : s.isEmpty <;> by_cases other_empty : t.isEmpty <;>
    simp only [empty, other_empty, if_true, if_false, Bool.false_eq_true, String.toList_append,
      List.append_assoc, List.append_cancel_left_eq] at same <;>
    obtain ⟨numbers, texts⟩ := attr_number_inj same
  · rw [String.isEmpty_iff] at empty other_empty
    rw [key_eq numbers, empty, other_empty]
    exact ⟨rfl, List.append_cancel_left texts⟩
  · simp at texts
  · simp at texts
  · obtain ⟨rfl, rests⟩ := escapeText_inj (List.append_cancel_left texts)
    rw [key_eq numbers]
    exact ⟨rfl, List.append_cancel_left rests⟩

/-! ## Elements -/

theorem dataLine_starts (keys : List MarkupKey) (key : MarkupKey) (text : String) :
    ∃ line, (dataLine keys key text).toList = "      <data".toList ++ line := by
  unfold dataLine
  split <;> exact ⟨_, by simp [List.append_assoc]; rfl⟩

theorem keyLine_starts (key : MarkupKey) (number : Nat) :
    ∃ line, (keyLine key number).toList = "  <key".toList ++ line := by
  unfold keyLine
  exact ⟨_, by simp [List.append_assoc]; rfl⟩

theorem element_starts (keys : List MarkupKey) (name attributes : String)
    (data : List (MarkupKey × String)) :
    ∃ lines, (element keys name attributes data).toList =
      "    <".toList ++ name.toList ++ lines := by
  unfold element
  split <;> exact ⟨_, by simp [List.append_assoc]; rfl⟩

theorem element_inj {α : Type} {name : String} {write : α → String}
    (told : ∀ {a b : α} {r s}, (write a).toList ++ r = (write b).toList ++ s → a = b ∧ r = s)
    {a b : α} {data more : List (MarkupKey × String)} (listed : ∀ d ∈ data, d.1 ∈ keys)
    (same : (element keys name (write a) data).toList ++ rest =
      (element keys name (write b) more).toList ++ others) :
    (a, data) = (b, more) ∧ rest = others := by
  unfold element at same
  by_cases bare : data.isEmpty <;> by_cases other_bare : more.isEmpty <;>
    simp only [bare, other_bare, if_true, if_false, Bool.false_eq_true, String.toList_append,
      String.toList_join, List.append_assoc, List.append_cancel_left_eq] at same <;>
    obtain ⟨rfl, lines⟩ := told same
  · rw [List.isEmpty_iff] at bare other_bare
    rw [bare, other_bare]
    exact ⟨rfl, List.append_cancel_left lines⟩
  · simp at lines
  · simp at lines
  · rw [List.append_cancel_left_eq, List.flatMap_map, List.flatMap_map] at lines
    have ends (d : MarkupKey × String) (r tail : List Char) :
        (dataLine keys d.1 d.2).toList ++ r ≠ "    </".toList ++ tail := by
      obtain ⟨line, starts⟩ := dataLine_starts keys d.1 d.2
      simp [starts]
    obtain ⟨rfl, rests⟩ := Text.flatMap_inj (fun d inside _ _ _ _ => dataLine_inj (listed d inside))
      (fun d _ r => ends d r _) (fun d _ r => ends d r _) lines
    simp only [List.append_cancel_left_eq] at rests
    exact ⟨rfl, rests⟩

/-! ## Documents -/

namespace Sheet

variable {s t : Sheet}

theorem mem_keys_of_node {node : String × List (MarkupKey × String)} (inside : node ∈ s.nodes)
    {d : MarkupKey × String} (listed : d ∈ node.2) : d.1 ∈ s.keys := by
  rw [keys, List.mem_eraseDups]
  exact List.mem_map_of_mem (List.mem_append_left _ (List.mem_flatMap.mpr ⟨node, inside, listed⟩))

theorem mem_keys_of_link {link : (String × String) × List (MarkupKey × String)}
    (inside : link ∈ s.links) {d : MarkupKey × String} (listed : d ∈ link.2) : d.1 ∈ s.keys := by
  rw [keys, List.mem_eraseDups]
  exact List.mem_map_of_mem (List.mem_append_right _ (List.mem_flatMap.mpr ⟨link, inside, listed⟩))

theorem body_starts (s : Sheet) : ∃ lines, s.body.toList = "  <graph".toList ++ lines := by
  unfold body
  split <;> exact ⟨_, by simp [List.append_assoc]; rfl⟩

theorem links_inj
    (same : s.links.flatMap (fun link => (linkElement s.keys link).toList) ++
        ("  </".toList ++ rest) =
      t.links.flatMap (fun link => (linkElement s.keys link).toList) ++
        ("  </".toList ++ others)) :
    s.links = t.links ∧ rest = others := by
  have told {a b : String × String} {r q : List Char}
      (same : (attr "source" a.1 ++ attr "target" a.2).toList ++ r =
        (attr "source" b.1 ++ attr "target" b.2).toList ++ q) : a = b ∧ r = q := by
    simp only [String.toList_append, List.append_assoc] at same
    obtain ⟨sources, target⟩ := attr_inj same
    obtain ⟨targets, rests⟩ := attr_inj target
    exact ⟨Prod.ext sources targets, rests⟩
  have ends (link : (String × String) × List (MarkupKey × String)) (r tail : List Char) :
      (linkElement s.keys link).toList ++ r ≠ "  </".toList ++ tail := by
    obtain ⟨lines, starts⟩ := element_starts s.keys "edge" _ link.2
    rw [linkElement, starts]
    simp
  obtain ⟨links, rests⟩ := Text.flatMap_inj
    (fun _ inside _ _ _ _ => element_inj told fun _ => mem_keys_of_link inside)
    (fun link _ r => ends link r _) (fun link _ r => ends link r _) same
  exact ⟨links, List.append_cancel_left rests⟩

theorem nodes_inj
    (same : s.nodes.flatMap (fun node => (nodeElement s.keys node).toList) ++
        (s.links.flatMap (fun link => (linkElement s.keys link).toList) ++
          ("  </".toList ++ rest)) =
      t.nodes.flatMap (fun node => (nodeElement s.keys node).toList) ++
        (t.links.flatMap (fun link => (linkElement s.keys link).toList) ++
          ("  </".toList ++ others))) :
    s = t ∧ rest = others := by
  have ends (node : String × List (MarkupKey × String)) (r tail : List Char)
      (links : List ((String × String) × List (MarkupKey × String))) :
      (nodeElement s.keys node).toList ++ r ≠
        links.flatMap (fun link => (linkElement s.keys link).toList) ++
          ("  </".toList ++ tail) := by
    obtain ⟨lines, starts⟩ := element_starts s.keys "node" (attr "id" node.1) node.2
    rw [nodeElement, starts]
    cases links with
    | nil => simp
    | cons link links =>
      obtain ⟨first, begins⟩ := element_starts s.keys "edge" _ link.2
      rw [List.flatMap_cons, linkElement, begins]
      simp
  obtain ⟨nodes, after⟩ := Text.flatMap_inj
    (fun _ inside _ _ _ _ => element_inj attr_inj fun _ => mem_keys_of_node inside)
    (fun node _ r => ends node r _ _) (fun node _ r => ends node r _ _) same
  obtain ⟨links, rests⟩ := links_inj after
  cases s
  cases t
  exact ⟨congrArg₂ Sheet.mk nodes links, rests⟩

theorem body_inj (same_keys : s.keys = t.keys) (closed : s.nodes = [] → s.links = [])
    (other : t.nodes = [] → t.links = [])
    (same : s.body.toList ++ rest = t.body.toList ++ others) : s = t ∧ rest = others := by
  unfold body at same
  -- A graph without nodes is one empty element.
  by_cases bare : s.nodes.isEmpty <;> by_cases other_bare : t.nodes.isEmpty <;>
    simp only [bare, other_bare, if_true, if_false, Bool.false_eq_true, String.toList_append,
      String.toList_join, List.append_assoc] at same
  · rw [List.isEmpty_iff] at bare other_bare
    cases s
    cases t
    simp_all
  · simp at same
  · simp at same
  · rw [List.append_cancel_left_eq, List.flatMap_map, List.flatMap_map, List.flatMap_map,
      List.flatMap_map, ← same_keys] at same
    have split (tail : List Char) :
        "  </graph>\n".toList ++ tail = "  </".toList ++ ("graph>\n".toList ++ tail) := rfl
    rw [split, split] at same
    obtain ⟨rfl, rests⟩ := nodes_inj same
    exact ⟨rfl, List.append_cancel_left rests⟩

theorem document_inj (closed : s.nodes = [] → s.links = []) (other : t.nodes = [] → t.links = [])
    (same : s.document = t.document) : s = t := by
  have texts := congrArg String.toList same
  simp only [document, keyLines, String.toList_append, String.toList_join, List.append_assoc,
    List.append_cancel_left_eq, List.flatMap_map] at texts
  have ends (p : MarkupKey × Nat) (u : Sheet) (r tail : List Char) :
      (keyLine p.1 p.2).toList ++ r ≠ u.body.toList ++ tail := by
    obtain ⟨line, starts⟩ := keyLine_starts p.1 p.2
    obtain ⟨lines, begins⟩ := u.body_starts
    rw [starts, begins]
    simp
  -- The keys come first, and with them the numbers in the body mean the same in both documents.
  obtain ⟨numbered, bodies⟩ := Text.flatMap_inj (fun _ _ _ _ _ _ => keyLine_inj)
    (fun p _ r => ends p t r _) (fun p _ r => ends p s r _) texts
  have keys := congrArg (List.map Prod.fst) (List.reverse_inj.mp numbered)
  rw [List.zipIdx_map_fst, List.zipIdx_map_fst] at keys
  exact (body_inj keys closed other bodies).1

end Sheet

/-! ## Line ends -/

def IsClear (s : String) : Prop := ∀ c ∈ s.toList, 0x20 ≤ c.toNat

instance (s : String) : Decidable (IsClear s) := List.decidableBAll _ _

def AreLines (w : List Char) : Prop := ∀ c ∈ w, c = '\n' ∨ 0x20 ≤ c.toNat

instance (w : List Char) : Decidable (AreLines w) := List.decidableBAll _ _

theorem areLines_append {v w : List Char} : AreLines (v ++ w) ↔ AreLines v ∧ AreLines w :=
  List.forall_mem_append

theorem areLines_flatMap {α : Type} {write : α → List Char} {items : List α}
    (lines : ∀ a ∈ items, AreLines (write a)) : AreLines (items.flatMap write) := by
  intro c inside
  obtain ⟨a, listed, written⟩ := List.mem_flatMap.mp inside
  exact lines a listed c written

theorem IsClear.areLines {s : String} (clear : IsClear s) : AreLines s.toList :=
  fun c inside => .inr (clear c inside)

theorem splitLineEnds_eq_self {w : List Char} (lines : AreLines w) : splitLineEnds w = w := by
  induction w with
  | nil => rfl
  | cons c w ih =>
    obtain ⟨first, more⟩ := List.forall_mem_cons.mp lines
    have breaks : ∀ sign ∈ ['\r', '\x0b', '\x0c', '\x1c', '\x1d', '\x1e'],
        ¬ (sign = '\n' ∨ 0x20 ≤ sign.toNat) := by
      simp
    have other : ∀ sign ∈ ['\r', '\x0b', '\x0c', '\x1c', '\x1d', '\x1e'], c ≠ sign :=
      fun sign listed same => breaks sign listed (same ▸ first)
    simp only [List.forall_mem_cons] at other
    rw [splitLineEnds, ih more]
    · simp [other]
    · rintro r same -
      exact other.1 same

theorem IsSpelling.areLines {word : List Char} (spelled : IsSpelling mark c word)
    (visible : 0x20 ≤ c.toNat) : AreLines word := by
  cases spelled with
  | itself =>
    intro sign inside
    rw [List.mem_singleton.mp inside]
    exact .inr visible
  | reference name signs _ =>
    have ends : AreLines ['&'] ∧ AreLines [';'] := by decide
    exact areLines_append.mpr ⟨areLines_append.mpr
      ⟨ends.1, fun sign inside => .inr (signs sign inside).1⟩, ends.2⟩

theorem areLines_escapeText {s : String} (clear : IsClear s) :
    AreLines (escapeText s).toList := by
  rw [escapeText, String.toList_ofList]
  exact areLines_flatMap fun c inside => (isSpelling_textChar c).areLines (clear c inside)

theorem areLines_attr {value : String} (name : String) (named : AreLines name.toList)
    (clear : IsClear value) : AreLines (attr name value).toList := by
  have escaped : AreLines (escapeAttribute value).toList := by
    rw [escapeAttribute, String.toList_ofList]
    exact areLines_flatMap fun c inside => (isSpelling_attributeChar c).areLines (clear c inside)
  have marks : AreLines " ".toList ∧ AreLines "=\"".toList ∧ AreLines "\"".toList := by decide
  simp only [attr, String.toList_append, areLines_append]
  exact ⟨⟨⟨⟨marks.1, named⟩, marks.2.1⟩, escaped⟩, marks.2.2⟩

theorem areLines_attr_number (name : String) (named : AreLines name.toList) (n : Nat) :
    AreLines (attr name ("d" ++ toString n)).toList := by
  refine areLines_attr name named fun c inside => ?_
  rw [String.toList_append, List.mem_append] at inside
  rcases inside with mark | digit
  · rw [List.mem_singleton.mp mark]
    decide
  · exact (areSigns_toDigits n c (Nat.toList_repr ▸ digit)).1

def MarkupKey.IsClear (key : MarkupKey) : Prop :=
  Graph.IsClear key.name ∧ Graph.IsClear key.type ∧ Graph.IsClear key.scope

instance (key : MarkupKey) : Decidable key.IsClear :=
  inferInstanceAs (Decidable
    (Graph.IsClear key.name ∧ Graph.IsClear key.type ∧ Graph.IsClear key.scope))

theorem MarkupKey.IsClear.areLines {key : MarkupKey} (clear : key.IsClear) (number : Nat) :
    AreLines (keyLine key number).toList := by
  have id := areLines_attr_number "id" (by decide) number
  have scope := areLines_attr "for" (by decide) clear.2.2
  have name := areLines_attr "attr.name" (by decide) clear.1
  have type := areLines_attr "attr.type" (by decide) clear.2.1
  simp only [keyLine, String.toList_append, areLines_append, id, scope, name, type, and_true]
  decide

theorem areLines_dataLine (keys : List MarkupKey) (key : MarkupKey) {text : String}
    (clear : IsClear text) : AreLines (dataLine keys key text).toList := by
  have opening := areLines_attr_number "key" (by decide) (keys.idxOf key)
  have escaped := areLines_escapeText clear
  unfold dataLine
  split <;>
    simp only [String.toList_append, areLines_append, opening, escaped, and_true] <;> decide

theorem areLines_element {keys : List MarkupKey} {name attributes : String}
    {data : List (MarkupKey × String)} (named : AreLines name.toList)
    (lines : AreLines attributes.toList) (clear : ∀ d ∈ data, IsClear d.2) :
    AreLines (element keys name attributes data).toList := by
  have inner : AreLines (data.flatMap fun d => (dataLine keys d.1 d.2).toList) :=
    areLines_flatMap fun d inside => areLines_dataLine keys d.1 (clear d inside)
  unfold element
  split <;>
    simp only [String.toList_append, String.toList_join, List.flatMap_map, areLines_append, named,
      lines, inner, and_true] <;> decide

namespace Sheet

structure IsClear (s : Sheet) : Prop where
  keys : ∀ key ∈ s.keys, key.IsClear
  nodes : ∀ node ∈ s.nodes, Graph.IsClear node.1 ∧ ∀ d ∈ node.2, Graph.IsClear d.2
  links : ∀ link ∈ s.links, Graph.IsClear link.1.1 ∧ Graph.IsClear link.1.2 ∧
    ∀ d ∈ link.2, Graph.IsClear d.2

variable {s t : Sheet}

theorem areLines_markupOpening : AreLines markupOpening.toList := by
  -- Long literals are told character by character.
  have literal {w : List Char} (lines : AreLines w) : AreLines (String.ofList w).toList := by
    rwa [String.toList_ofList]
  unfold markupOpening
  simp only [String.toList_append, areLines_append]
  exact ⟨⟨⟨literal (by decide), literal (by decide)⟩, literal (by decide)⟩, literal (by decide)⟩

theorem IsClear.areLines (clear : s.IsClear) : AreLines s.document.toList := by
  have keys : AreLines (s.keys.zipIdx.reverse.flatMap fun p => (keyLine p.1 p.2).toList) := by
    refine areLines_flatMap fun p inside => (clear.keys p.1 ?_).areLines p.2
    exact List.fst_mem_of_mem_zipIdx (List.mem_reverse.mp inside)
  have nodes : AreLines (s.nodes.flatMap fun node => (nodeElement s.keys node).toList) := by
    refine areLines_flatMap fun node inside => ?_
    obtain ⟨id, data⟩ := clear.nodes node inside
    exact areLines_element (by decide) (areLines_attr "id" (by decide) id) data
  have links : AreLines (s.links.flatMap fun link => (linkElement s.keys link).toList) := by
    refine areLines_flatMap fun link inside => ?_
    obtain ⟨source, target, data⟩ := clear.links link inside
    refine areLines_element (by decide) ?_ data
    rw [String.toList_append, areLines_append]
    exact ⟨areLines_attr "source" (by decide) source, areLines_attr "target" (by decide) target⟩
  have body : AreLines s.body.toList := by
    unfold body
    split
    · decide
    · simp only [String.toList_append, String.toList_join, List.flatMap_map, areLines_append,
        nodes, links, and_true]
      decide
  simp only [document, keyLines, String.toList_append, String.toList_join, List.flatMap_map,
    areLines_append, areLines_markupOpening, keys, body, and_true, true_and]
  decide

end Sheet

end Understudy.Graph
