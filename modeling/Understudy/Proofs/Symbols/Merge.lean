import Mathlib.Data.Finset.Card
import Understudy.Proofs.Symbols.Adding

/-! What a merge keeps of the records it has seen.

Main statement: a merge keeps the first full definition of each name, else its first forward
declaration, at a place that counts the names before it, and reports the names with a definition
that differs from the first. The records seen so far are carried along: each record extends the
history, and the table is the same function of it at every step.
-/

set_option autoImplicit false

namespace Understudy

open Understudy.Cpp

/-! ## The first of each name -/

section Firsts

variable {α : Type} {f : α → String} {l : List α} {a : α}

def firsts (f : α → String) : List α → List α
  | [] => []
  | a :: rest => a :: (firsts f rest).filter fun b => f b ≠ f a

theorem firsts_append (front back : List α) :
    firsts f (front ++ back) =
      firsts f front ++ (firsts f back).filter fun b => f b ∉ front.map f := by
  induction front with
  | nil => simp [firsts]
  | cons a rest ih =>
    simp only [List.cons_append, firsts, ih, List.filter_append, List.filter_filter]
    congr 3
    funext b
    simp only [List.map_cons, List.mem_cons, not_or, Bool.decide_and]

theorem firsts_concat (l : List α) (a : α) :
    firsts f (l ++ [a]) = if f a ∈ l.map f then firsts f l else firsts f l ++ [a] := by
  rw [firsts_append]
  by_cases known : f a ∈ l.map f
  · rw [if_pos known]
    simp only [firsts, List.filter_nil, List.filter_cons, known, not_true_eq_false, decide_false,
      Bool.false_eq_true, if_false, List.append_nil]
  · rw [if_neg known]
    simp only [firsts, List.filter_nil, List.filter_cons, known, not_false_eq_true, decide_true,
      if_true]

theorem mem_firsts : a ∈ firsts f l ↔ ∃ later, l.filter (fun b => f b == f a) = a :: later := by
  induction l with
  | nil => simp [firsts]
  | cons first rest ih =>
    by_cases same : f first = f a
    · simp [firsts, same, eq_comm]
    · have apart : a ≠ first := fun equal => same (congrArg f equal).symm
      simp [firsts, same, Ne.symm same, apart, ih]

theorem map_firsts_nodup (f : α → String) (l : List α) : ((firsts f l).map f).Nodup := by
  induction l with
  | nil => simp [firsts]
  | cons a rest ih =>
    rw [firsts, List.map_cons, List.nodup_cons]
    refine ⟨by simp, ?_⟩
    exact ih.sublist (List.filter_sublist.map f)

theorem mem_map_firsts {name : String} : name ∈ (firsts f l).map f ↔ name ∈ l.map f := by
  induction l with
  | nil => simp [firsts]
  | cons a rest ih =>
    by_cases same : name = f a
    · simp [firsts, same]
    · simp only [List.mem_map] at ih
      simp only [firsts, List.map_cons, List.mem_cons, same, false_or, List.mem_map,
        List.mem_filter, ← ih, decide_eq_true_eq, and_assoc]
      constructor
      · rintro ⟨b, member, _, rfl⟩
        exact ⟨b, member, rfl⟩
      · rintro ⟨b, member, rfl⟩
        exact ⟨b, member, same, rfl⟩

theorem getElem?_map_firsts {name : String} (known : name ∈ l.map f) :
    ((firsts f l).map f)[((l.map f).takeWhile (· ≠ name)).toFinset.card]? = some name := by
  obtain ⟨b, member, named⟩ := List.mem_map.mp known
  have some : (l.find? fun a => f a == name).isSome :=
    List.find?_isSome.mpr ⟨b, member, by simp [named]⟩
  obtain ⟨a, found⟩ := Option.isSome_iff_exists.mp some
  -- The list is cut at the first record of the name. What is kept of the records before that has
  -- all of their names, each once.
  obtain ⟨is, front, back, rfl, before⟩ := List.find?_eq_some_iff_append.mp found
  have same : f a = name := by simpa using is
  have new : name ∉ front.map f := by
    intro earlier
    obtain ⟨c, listed, again⟩ := List.mem_map.mp earlier
    simpa [again] using before c listed
  have cut : ((front ++ a :: back).map f).takeWhile (· ≠ name) = front.map f := by
    rw [List.map_append, List.takeWhile_append_of_pos]
    · simp [same]
    · rintro other listed
      rw [decide_eq_true_eq]
      rintro rfl
      exact new listed
  have counted : (front.map f).toFinset.card = (firsts f front).length := by
    rw [← List.length_map f, ← List.toFinset_card_of_nodup (map_firsts_nodup f front)]
    congr 1
    ext other
    simp only [List.mem_toFinset, mem_map_firsts]
  rw [cut, counted, firsts_append, firsts,
    List.filter_cons_of_pos (by simpa only [same, decide_eq_true_eq] using new)]
  simp [same]

/-- A list whose first record is contradicted by a later one. -/
def Contested (same : α → α → Bool) (l : List α) : Prop :=
  ∃ first later, l = first :: later ∧ ∃ a ∈ later, same first a = false

theorem not_contested_nil {same : α → α → Bool} : ¬ Contested same [] := by
  rintro ⟨first, later, split, _⟩
  cases split

theorem not_contested_singleton {same : α → α → Bool} : ¬ Contested same [a] := by
  rintro ⟨first, later, split, b, member, _⟩
  cases split
  cases member

theorem contested_concat {same : α → α → Bool} {first : α} {later : List α} (a : α) :
    Contested same (first :: later ++ [a]) ↔
      Contested same (first :: later) ∨ same first a = false := by
  constructor
  · rintro ⟨_, _, split, b, member, differs⟩
    cases split
    rcases List.mem_append.mp member with earlier | last
    · exact .inl ⟨first, later, rfl, b, earlier, differs⟩
    · cases List.mem_singleton.mp last
      exact .inr differs
  · rintro (⟨_, _, split, b, member, differs⟩ | differs)
    · cases split
      exact ⟨first, later ++ [a], rfl, b, List.mem_append_left _ member, differs⟩
    · exact ⟨first, later ++ [a], rfl, a, by simp, differs⟩

end Firsts

/-! ## Reports -/

namespace Diagnostics

theorem mem_report_of_text {ds : Diagnostics} {d e : Diagnostic} {subject message : String}
    (texts : d.subject = .text subject ∧ d.message = .text message) :
    e ∈ ds.report d ↔ e ∈ ds ∨ e = d := by
  rw [mem_report]
  constructor
  · exact Or.imp_right And.left
  · rintro (known | rfl)
    · exact .inl known
    · cases there : ds.has e with
      | false => exact .inr ⟨rfl, rfl⟩
      | true =>
        -- It was left out for a report that looks the same, and texts look like no other value.
        obtain ⟨other, member, alike⟩ := has_eq_true.mp there
        have same : other = e := by
          obtain ⟨kind, about, words⟩ := e
          obtain ⟨rfl, rfl⟩ := texts
          obtain ⟨kind', about', words'⟩ := other
          simp only [Diagnostic.canon, Diagnostic.mk.injEq] at alike
          obtain ⟨rfl, alikeAbout, alikeWords⟩ := alike
          rw [Value.eq_text_of_alike (Value.alike_iff.mpr alikeAbout),
            Value.eq_text_of_alike (Value.alike_iff.mpr alikeWords)]
        exact .inl (same ▸ member)

theorem mem_reportAll_of_kind {ds new : List Diagnostic} {kind : DiagnosticKind} {e : Diagnostic}
    (kinds : ∀ d ∈ new, d.kind = kind) (other : e.kind ≠ kind) :
    e ∈ reportAll ds new ↔ e ∈ ds := by
  induction new generalizing ds with
  | nil => rfl
  | cons d rest ih =>
    change e ∈ reportAll (report ds d) rest ↔ _
    rw [ih fun d member => kinds d (List.mem_cons_of_mem _ member), mem_report]
    constructor
    · rintro (known | ⟨rfl, _⟩)
      · exact known
      · exact absurd (kinds e List.mem_cons_self) other
    · exact .inl

end Diagnostics

namespace SymbolTable

variable {t after : SymbolTable} {d : Declaration String} {ds : List (Declaration String)}
  {bs : List (FunctionBody String)} {name : String} {stored : Bool}

inductive Doubled where
  | definition
  | body
  deriving DecidableEq, Repr

def Doubled.word : Doubled → String
  | .definition => "definition"
  | .body => "body"

def Reports (t : SymbolTable) (what : Doubled) (name : String) : Prop :=
  ∃ unit keptUnit, duplicateReport (.text name) what.word unit keptUnit ∈ t.diagnostics

theorem duplicateReport_inj {what what' : Doubled} {name' : String} {u k u' k' : Value}
    (same : duplicateReport (.text name) what.word u k =
      duplicateReport (.text name') what'.word u' k') : name = name' ∧ what = what' := by
  simp only [duplicateReport, Diagnostic.mk.injEq, true_and, Value.text.injEq] at same
  obtain ⟨named, said⟩ := same
  have led := congrArg (fun s : String => s.toList.head?) said
  cases what <;> cases what' <;> simp [Doubled.word] at led ⊢ <;> exact named

theorem reports_report {what what' : Doubled} {name' : String} {u k : Value} :
    (t.report (duplicateReport (.text name') what'.word u k)).Reports what name ↔
      t.Reports what name ∨ name = name' ∧ what = what' := by
  unfold Reports report
  simp only [Diagnostics.mem_report_of_text
    (d := duplicateReport (.text name') what'.word u k) ⟨rfl, rfl⟩]
  constructor
  · rintro ⟨unit, kept, known | new⟩
    · exact .inl ⟨unit, kept, known⟩
    · exact .inr (duplicateReport_inj new)
  · rintro (⟨unit, kept, known⟩ | ⟨rfl, rfl⟩)
    · exact ⟨unit, kept, .inl known⟩
    · exact ⟨u, k, .inr rfl⟩

/-! ## One more record -/

def definitions (ds : List (Declaration String)) (name : String) : List (Declaration String) :=
  ds.filter fun d => d.name == name && d.isFull

/-- The declaration to keep of a name: the first full one, else the first. -/
def keptOf? (ds : List (Declaration String)) (name : String) : Option (Declaration String) :=
  (definitions ds name).head?.or (ds.find? (·.name == name))

def bodiesOf (bs : List (FunctionBody String)) (name : String) : List (FunctionBody String) :=
  bs.filter (·.name == name)

theorem definitions_concat :
    definitions (ds ++ [d]) name =
      definitions ds name ++ if d.name = name ∧ d.isFull = true then [d] else [] := by
  unfold definitions
  rw [List.filter_append]
  congr 1
  by_cases counts : d.name = name ∧ d.isFull = true
  · simp [counts]
  · rw [if_neg counts]
    simpa using counts

theorem bodiesOf_concat {b : FunctionBody String} :
    bodiesOf (bs ++ [b]) name = bodiesOf bs name ++ if b.name = name then [b] else [] := by
  unfold bodiesOf
  rw [List.filter_append]
  congr 1
  by_cases same : b.name = name <;> simp [same]

theorem mem_definitions : d ∈ definitions ds name ↔ d ∈ ds ∧ d.name = name ∧ d.isFull = true := by
  simp [definitions]

theorem keptOf?_eq_none : keptOf? ds name = none ↔ name ∉ ds.map (·.name) := by
  unfold keptOf?
  rw [Option.or_eq_none_iff, List.head?_eq_none_iff, List.find?_eq_none]
  constructor
  · rintro ⟨_, missing⟩ known
    obtain ⟨d, member, named⟩ := List.mem_map.mp known
    exact missing d member (beq_iff_eq.mpr named)
  · intro unknown
    have missing : ∀ d ∈ ds, d.name ≠ name := fun d member named =>
      unknown (List.mem_map.mpr ⟨d, member, named⟩)
    refine ⟨List.eq_nil_iff_forall_not_mem.mpr fun d listed => ?_, fun d member => ?_⟩
    · exact missing d (mem_definitions.mp listed).1 (mem_definitions.mp listed).2.1
    · simpa using missing d member

theorem definitions_of_full {kept : Declaration String} (keeps : keptOf? ds name = some kept)
    (full : kept.isFull = true) : ∃ later, definitions ds name = kept :: later := by
  unfold keptOf? at keeps
  cases listed : definitions ds name with
  | nil =>
    rw [listed, List.head?_nil, Option.none_or] at keeps
    have member : kept ∈ definitions ds name := mem_definitions.mpr
      ⟨List.mem_of_find?_eq_some keeps, by simpa using List.find?_some keeps, full⟩
    rw [listed] at member
    cases member
  | cons first later =>
    rw [listed, List.head?_cons, Option.some_or] at keeps
    cases keeps
    exact ⟨later, rfl⟩

theorem definitions_of_forward {kept : Declaration String} (keeps : keptOf? ds name = some kept)
    (forward : kept.isFull = false) : definitions ds name = [] := by
  unfold keptOf? at keeps
  cases listed : definitions ds name with
  | nil => rfl
  | cons first later =>
    have full := (mem_definitions.mp (listed ▸ List.mem_cons_self : first ∈ definitions ds name)).2.2
    rw [listed, List.head?_cons, Option.some_or] at keeps
    cases keeps
    rw [forward] at full
    cases full

theorem definitions_of_none (missing : keptOf? ds name = none) : definitions ds name = [] := by
  unfold keptOf? at missing
  exact List.head?_eq_none_iff.mp (Option.or_eq_none_iff.mp missing).1

theorem keptOf?_concat :
    keptOf? (ds ++ [d]) name =
      if d.name = name ∧
          (keptOf? ds name = none ∨
            d.isFull = true ∧ ∃ kept, keptOf? ds name = some kept ∧ kept.isFull = false) then
        some d
      else keptOf? ds name := by
  have split : keptOf? (ds ++ [d]) name =
      (definitions ds name ++ if d.name = name ∧ d.isFull = true then [d] else []).head?.or
        ((ds.find? (·.name == name)).or (if d.name = name then some d else none)) := by
    unfold keptOf?
    rw [definitions_concat, List.find?_append]
    by_cases same : d.name = name <;> simp [same]
  -- What is kept so far tells if there is a full definition, and so if a new one comes first.
  rw [split]
  by_cases same : d.name = name
  · cases keeps : keptOf? ds name with
    | none =>
      have unlisted := definitions_of_none keeps
      have missing := (Option.or_eq_none_iff.mp keeps).2
      cases d.isFull <;> simp [same, unlisted, missing]
    | some kept =>
      cases whole : kept.isFull with
      | true =>
        obtain ⟨later, listed⟩ := definitions_of_full keeps whole
        simp [same, listed, whole]
      | false =>
        have unlisted := definitions_of_forward keeps whole
        have first : ds.find? (·.name == name) = some kept := by
          unfold keptOf? at keeps
          simpa [unlisted] using keeps
        cases d.isFull <;> simp [same, unlisted, first, whole]
  · simp [same, keptOf?]

/-! ## Looking up what was added -/

theorem Adds.mem_declarations (arena : t.IsArena) (adds : t.Adds d after stored)
    {e : Declaration String} (apart : e.name ≠ d.name) :
    e ∈ after.declarations ↔ e ∈ t.declarations := by
  have differs : e ≠ d := fun same => apart (congrArg (·.name) same)
  cases adds with
  | appends _ => simp [SymbolTable.append, differs]
  | passes _ _ | differs _ _ _ _ => rfl
  | @takesOver id kept place _ =>
    obtain ⟨old, found, named⟩ := (arena.ids d.name id).mp place
    constructor
    · intro member
      exact (List.mem_or_eq_of_mem_set member).resolve_right differs
    · intro member
      obtain ⟨i, here⟩ := List.mem_iff_getElem?.mp member
      -- The place that was taken over had the other name before.
      have elsewhere : id ≠ i := by
        rintro rfl
        rw [here] at found
        cases found
        exact apart named
      exact List.mem_of_getElem? (i := i) (by rw [List.getElem?_set_ne elsewhere, here])

theorem Adds.mem_of_stored (arena : t.IsArena) (adds : t.Adds d after true) :
    d ∈ after.declarations := by
  cases adds with
  | appends _ => simp [SymbolTable.append]
  | @takesOver id kept place _ =>
    obtain ⟨old, found, _⟩ := (arena.ids d.name id).mp place
    exact List.mem_set (List.getElem?_eq_some_iff.mp found).1 d

theorem Adds.get?_eq (arena : t.IsArena) (grown : after.IsArena) (adds : t.Adds d after stored)
    (name : String) :
    after.get? name = if d.name = name ∧ stored = true then some d else t.get? name := by
  by_cases same : d.name = name
  · subst same
    cases stored with
    | true =>
      rw [if_pos ⟨rfl, rfl⟩]
      exact grown.get?_eq_some.mpr ⟨adds.mem_of_stored arena, rfl⟩
    | false => cases adds <;> simp [report, get?, idOf?]
  · rw [if_neg (same ·.1)]
    ext e
    rw [grown.get?_eq_some, arena.get?_eq_some]
    apply and_congr_left
    rintro rfl
    exact adds.mem_declarations arena (Ne.symm same)

theorem Adds.stored_iff (adds : t.Adds d after stored) :
    stored = true ↔ t.get? d.name = none ∨
      d.isFull = true ∧ ∃ kept, t.get? d.name = some kept ∧ kept.isFull = false := by
  cases adds with
  | appends new => simp [new]
  | passes known passed =>
    rcases passed with forward | ⟨full, _⟩
    · simp [known, forward]
    · simp [known, full]
  | takesOver _ known full forward => simp [known, full, forward]
  | differs known _ keptFull _ => simp [known, keptFull]

/-! ## The history of a table -/

/-- A table holds what is to be kept of the records added so far. -/
structure History (t : SymbolTable) (ds : List (Declaration String))
    (bs : List (FunctionBody String)) : Prop where
  built : t.Built
  names : t.names = (firsts (·.name) ds).map (·.name)
  kept : ∀ name, t.get? name = keptOf? ds name
  reports : ∀ name, t.Reports .definition name ↔
    Contested Declaration.sameContent (definitions ds name)
  bodies : t.bodies = firsts (·.name) bs
  bodyIds : ∀ name i, t.bodyIds.get? name = some i ↔ ∃ b, t.bodies[i]? = some b ∧ b.name = name
  bodyReports : ∀ name, t.Reports .body name ↔
    Contested FunctionBody.sameContent (bodiesOf bs name)

theorem history_empty : empty.History [] [] where
  built := .empty
  names := rfl
  kept := fun _ => rfl
  reports := fun name => by
    simpa [Reports, empty, definitions] using not_contested_nil
  bodies := rfl
  bodyIds := by simp [empty]
  bodyReports := fun name => by
    simpa [Reports, empty, bodiesOf] using not_contested_nil

theorem History.reports_adds (history : t.History ds bs) (adds : t.Adds d after stored)
    (name : String) :
    after.Reports .definition name ↔
      Contested Declaration.sameContent (definitions (ds ++ [d]) name) := by
  have before := history.reports name
  rw [definitions_concat]
  by_cases counts : d.name = name ∧ d.isFull = true
  · obtain ⟨rfl, full⟩ := counts
    rw [if_pos ⟨rfl, full⟩]
    cases adds with
    | appends new =>
      rw [history.kept] at new
      rw [definitions_of_none new] at before ⊢
      exact before.trans (iff_of_false not_contested_nil not_contested_singleton)
    -- What is taken over is no full definition, so the new one is the first.
    | takesOver _ known _ forward =>
      rw [history.kept] at known
      rw [definitions_of_forward known forward] at before ⊢
      exact before.trans (iff_of_false not_contested_nil not_contested_singleton)
    | @passes kept known passed =>
      obtain ⟨keptFull, same⟩ := passed.resolve_left (by simp [full])
      obtain ⟨later, listed⟩ := definitions_of_full (history.kept d.name ▸ known) keptFull
      rw [listed] at before ⊢
      rw [contested_concat, before, same]
      simp
    | @differs kept known _ keptFull apart =>
      obtain ⟨later, listed⟩ := definitions_of_full (history.kept d.name ▸ known) keptFull
      rw [listed, contested_concat]
      rw [show "definition" = Doubled.definition.word from rfl, reports_report]
      exact iff_of_true (.inr ⟨rfl, rfl⟩) (.inr apart)
  · rw [if_neg counts, List.append_nil, ← before]
    cases adds with
    | appends _ | passes _ _ | takesOver _ _ _ _ => rfl
    | differs known full _ _ =>
      have apart : name ≠ d.name := fun same => counts ⟨same.symm, full⟩
      rw [show "definition" = Doubled.definition.word from rfl, reports_report]
      simp [apart]

theorem History.add (history : t.History ds bs) (added : t.add d = .ok (after, stored)) :
    after.History (ds ++ [d]) bs := by
  have arena := history.built.isArena
  have grown := arena.add added
  have adds := arena.adds added
  refine ⟨history.built.add added, ?_, fun name => ?_, history.reports_adds adds, ?_, ?_, fun name => ?_⟩
  · rw [adds.names_eq arena, firsts_concat, history.names]
    cases known : t.get? d.name with
    | none =>
      have unknown := keptOf?_eq_none.mp (history.kept d.name ▸ known)
      rw [if_neg unknown]
      simp
    | some kept =>
      have listed : d.name ∈ ds.map (·.name) := by
        by_contra unknown
        rw [history.kept, keptOf?_eq_none.mpr unknown] at known
        cases known
      rw [if_pos listed]
      simp
  · rw [adds.get?_eq arena grown, keptOf?_concat, ← history.kept]
    by_cases same : d.name = name
    · subst same
      simp only [adds.stored_iff]
    · simp only [same, false_and]
  · cases adds <;> exact history.bodies
  · cases adds <;> exact history.bodyIds
  · rw [← history.bodyReports name]
    cases adds with
    | appends _ | passes _ _ | takesOver _ _ _ _ => rfl
    | differs _ _ _ _ =>
      rw [show "definition" = Doubled.definition.word from rfl, reports_report]
      simp

theorem History.addBody (history : t.History ds bs) (b : FunctionBody String) :
    (t.addBody b).1.History ds (bs ++ [b]) := by
  have built := history.built.addBody b
  have kept := history.bodies
  cases place : t.bodyIds.get? b.name with
  | none =>
    -- The index has the names of all bodies.
    have unknown : b.name ∉ bs.map (·.name) := by
      rw [← mem_map_firsts, ← kept]
      intro listed
      obtain ⟨other, member, named⟩ := List.mem_map.mp listed
      obtain ⟨i, found⟩ := List.mem_iff_getElem?.mp member
      rw [(history.bodyIds b.name i).mpr ⟨other, found, named⟩] at place
      cases place
    simp only [SymbolTable.addBody, place] at built ⊢
    refine ⟨built, history.names, history.kept, history.reports, ?_,
      index_concat history.bodyIds place, fun name => ?_⟩
    · simp only [firsts_concat, if_neg unknown, kept]
    · rw [bodiesOf_concat]
      by_cases same : b.name = name
      · subst same
        have none : bodiesOf bs b.name = [] := by
          simpa [bodiesOf, List.filter_eq_nil_iff] using unknown
        rw [if_pos rfl, none, List.nil_append]
        refine iff_of_false (fun reported => ?_) not_contested_singleton
        have contested := (history.bodyReports b.name).mp reported
        rw [none] at contested
        exact not_contested_nil contested
      · rw [if_neg same, List.append_nil]
        exact history.bodyReports name
  | some id =>
    obtain ⟨first, found, named⟩ := (history.bodyIds b.name id).mp place
    have member := List.mem_of_getElem? found
    rw [kept, mem_firsts, named] at member
    obtain ⟨later, listed⟩ := member
    have known : b.name ∈ bs.map (·.name) := by
      rw [← mem_map_firsts, ← kept, ← named]
      exact List.mem_map_of_mem (List.mem_of_getElem? found)
    have bodies : t.bodies = firsts (·.name) (bs ++ [b]) := by
      rw [firsts_concat, if_pos known, kept]
    -- Bodies are compared with the first one only, as it is the one that is kept.
    have reports (name : String) : Contested FunctionBody.sameContent (bodiesOf (bs ++ [b]) name) ↔
        t.Reports .body name ∨ name = b.name ∧ first.sameContent b = false := by
      rw [bodiesOf_concat, history.bodyReports]
      by_cases same : b.name = name
      · subst same
        rw [if_pos rfl, show bodiesOf bs b.name = first :: later from listed, contested_concat]
        simp
      · rw [if_neg same, List.append_nil]
        simp [Ne.symm same]
    cases agrees : first.sameContent b with
    | true =>
      simp only [SymbolTable.addBody, place, found, agrees, if_true] at built ⊢
      refine ⟨built, history.names, history.kept, history.reports, bodies, history.bodyIds,
        fun name => ?_⟩
      rw [reports, agrees]
      simp
    | false =>
      simp only [SymbolTable.addBody, place, found, agrees, Bool.false_eq_true, if_false]
        at built ⊢
      refine ⟨built, history.names, history.kept, fun name => ?_, bodies, history.bodyIds,
        fun name => ?_⟩
      · rw [show "body" = Doubled.body.word from rfl, reports_report, history.reports]
        simp
      · rw [show "body" = Doubled.body.word from rfl, reports_report, reports, agrees]
        simp

theorem History.noteHeader (history : t.History ds bs) (d : Declaration String) (header : Value) :
    (t.noteHeader d header).History ds bs := by
  have built := history.built.noteHeader d header
  obtain ⟨headers, same⟩ := exists_headers_noteHeader t d header
  rw [same] at built ⊢
  exact ⟨built, history.names, history.kept, history.reports, history.bodies, history.bodyIds,
    history.bodyReports⟩

/-! ## Whole units -/

theorem History.addDeclarations (history : t.History ds bs) {header : Value}
    {new : List (Declaration String)} (added : (t.addDeclarations header new).2 = none) :
    (t.addDeclarations header new).1.History (ds ++ new) bs := by
  induction new generalizing t ds with
  | nil => simpa [SymbolTable.addDeclarations] using history
  | cons d rest ih =>
    unfold SymbolTable.addDeclarations at added ⊢
    cases outcome : t.add d with
    | error fault =>
      rw [outcome] at added
      cases added
    | ok result =>
      obtain ⟨after, stored⟩ := result
      rw [outcome] at added
      have grown := history.add outcome
      rw [List.append_cons]
      cases stored with
      | false => exact ih grown added
      | true => exact ih (grown.noteHeader d header) added

theorem History.addBodies (history : t.History ds bs) (new : List (FunctionBody String)) :
    (new.foldl (fun t b => (t.addBody b).1) t).History ds (bs ++ new) := by
  induction new generalizing t bs with
  | nil => simpa using history
  | cons b rest ih =>
    rw [List.append_cons]
    exact ih (history.addBody b)

theorem History.addUnit (history : t.History ds bs) {u : UnitRecord String}
    (added : (t.addUnit u).2 = none) :
    (t.addUnit u).1.History (ds ++ u.declarations) (bs ++ u.bodies) := by
  unfold SymbolTable.addUnit at added ⊢
  split at added
  next => cases added
  next t' outcome =>
    have grown := history.addDeclarations (congrArg Prod.snd outcome)
    rw [outcome] at grown
    exact grown.addBodies u.bodies

theorem History.addUnits (history : t.History ds bs) {units : List (UnitRecord String)}
    (added : (t.addUnits units).2 = none) :
    (t.addUnits units).1.History (ds ++ units.flatMap (·.declarations))
      (bs ++ units.flatMap (·.bodies)) := by
  induction units generalizing t ds bs with
  | nil => simpa [SymbolTable.addUnits] using history
  | cons u rest ih =>
    unfold SymbolTable.addUnits at added ⊢
    split at added
    next => cases added
    next t' outcome =>
      have grown := history.addUnit (congrArg Prod.snd outcome)
      rw [outcome] at grown
      simpa [List.flatMap_cons] using ih grown added

theorem History.checkBases (history : t.History ds bs) : t.checkBases.History ds bs := by
  have kinds : ∀ r ∈ t.namedBases.filterMap (fun named => t.baseReport? named.1 named.2),
      r.kind = .unresolvedReference := by
    intro r member
    obtain ⟨⟨context, base⟩, _, reported⟩ := List.mem_filterMap.mp member
    obtain ⟨_, same⟩ := Option.ite_none_right_eq_some.mp reported
    cases same
    rfl
  have reports (what : Doubled) (name : String) :
      t.checkBases.Reports what name ↔ t.Reports what name := by
    unfold Reports SymbolTable.checkBases
    apply exists_congr; intro unit
    apply exists_congr; intro kept
    exact Diagnostics.mem_reportAll_of_kind kinds (by simp [duplicateReport])
  exact ⟨history.built.diagnose _, history.names, history.kept,
    fun name => (reports _ name).trans (history.reports name), history.bodies, history.bodyIds,
    fun name => (reports _ name).trans (history.bodyReports name)⟩

/-! ## Refusals -/

theorem add_isOk_iff : (∃ result, t.add d = .ok result) ↔ malformation? d = none := by
  constructor
  · rintro ⟨result, added⟩
    rw [Option.eq_none_iff_forall_ne_some]
    intro reason found
    rw [add_eq_error.mpr ⟨reason, found, rfl⟩] at added
    cases added
  · intro sound
    cases added : t.add d with
    | ok result => exact ⟨result, rfl⟩
    | error fault =>
      obtain ⟨reason, found, _⟩ := add_eq_error.mp added
      rw [sound] at found
      cases found

theorem addDeclarations_eq_none (header : Value) :
    (t.addDeclarations header ds).2 = none ↔ ∀ d ∈ ds, malformation? d = none := by
  induction ds generalizing t with
  | nil => simp [SymbolTable.addDeclarations]
  | cons d rest ih =>
    have taken := add_isOk_iff (t := t) (d := d)
    unfold SymbolTable.addDeclarations
    rw [List.forall_mem_cons, ← taken]
    cases t.add d with
    | error fault => simp
    | ok result => simp [ih]

theorem addUnit_eq_none {u : UnitRecord String} :
    (t.addUnit u).2 = none ↔ ∀ d ∈ u.declarations, malformation? d = none := by
  rw [← addDeclarations_eq_none (t := t) u.header]
  unfold SymbolTable.addUnit
  split
  next outcome => simp [outcome]
  next outcome => simp [outcome]

theorem addUnits_eq_none {units : List (UnitRecord String)} :
    (t.addUnits units).2 = none ↔
      ∀ u ∈ units, ∀ d ∈ u.declarations, malformation? d = none := by
  induction units generalizing t with
  | nil => simp [SymbolTable.addUnits]
  | cons u rest ih =>
    have taken := addUnit_eq_none (t := t) (u := u)
    unfold SymbolTable.addUnits
    rw [List.forall_mem_cons, ← taken]
    split
    next outcome => simp [outcome]
    next outcome => simp [outcome, ih]

theorem merge_eq_none {units : List (UnitRecord String)} :
    (merge units).2 = none ↔ ∀ u ∈ units, ∀ d ∈ u.declarations, malformation? d = none := by
  rw [← addUnits_eq_none (t := empty)]
  unfold merge
  split
  next outcome => simp [outcome]
  next outcome => simp [outcome]

/-! ## Merged tables -/

theorem history_merge {units : List (UnitRecord String)} (merged : (merge units).2 = none) :
    (merge units).1.History (units.flatMap (·.declarations)) (units.flatMap (·.bodies)) := by
  have added := (addUnits_eq_none (t := empty)).mpr (merge_eq_none.mp merged)
  have history := history_empty.addUnits added
  rw [List.nil_append, List.nil_append] at history
  unfold merge
  split
  next outcome =>
    rw [outcome] at added
    cases added
  next outcome =>
    rw [outcome] at history
    exact history.checkBases

/-- What a table keeps of declarations and bodies that were given in this order. -/
structure Keeps (t : SymbolTable) (ds : List (Declaration String))
    (bs : List (FunctionBody String)) : Prop where
  /-- The place of a name is the number of distinct names before its first occurrence. -/
  place : ∀ name ∈ ds.map (·.name),
    t.idOf? name = some ((ds.map (·.name)).takeWhile (· ≠ name)).toFinset.card
  /-- The first full definition of a name is kept. -/
  definition : ∀ name d later, definitions ds name = d :: later → t.get? name = some d
  /-- Without one, the first forward declaration is kept. -/
  forward : ∀ name d, definitions ds name = [] → ds.find? (·.name == name) = some d →
    t.get? name = some d
  unknown : ∀ name ∉ ds.map (·.name), t.idOf? name = none ∧ t.get? name = none
  /-- A name is reported if a full definition of it differs from the first one. -/
  reported : ∀ name, t.Reports .definition name ↔
    Contested Declaration.sameContent (definitions ds name)
  /-- The first body of each name is kept, in the order of the names. -/
  bodies : t.bodies = firsts (·.name) bs
  bodyReported : ∀ name, t.Reports .body name ↔
    Contested FunctionBody.sameContent (bodiesOf bs name)

theorem History.keeps (history : t.History ds bs) : t.Keeps ds bs where
  place := fun name known => by
    have place := getElem?_map_firsts known
    rw [← history.names, SymbolTable.names, List.getElem?_map, Option.map_eq_some_iff] at place
    exact (history.built.isArena.ids name _).mpr place
  definition := fun name d later listed => by
    rw [history.kept, keptOf?, listed, List.head?_cons, Option.some_or]
  forward := fun name d none first => by
    rw [history.kept, keptOf?, none, List.head?_nil, Option.none_or, first]
  unknown := fun name unknown => by
    have missing : t.get? name = none := by rw [history.kept, keptOf?_eq_none.mpr unknown]
    exact ⟨(get?_eq_none history.built.isArena).mp missing, missing⟩
  reported := history.reports
  bodies := history.bodies
  bodyReported := history.bodyReports

/-- A merge is refused exactly for a malformed declaration, and otherwise keeps the first of what
the units say of each name. -/
theorem merge_keeps (units : List (UnitRecord String)) :
    ((merge units).2 = none ↔ ∀ u ∈ units, ∀ d ∈ u.declarations, malformation? d = none) ∧
      ((∀ u ∈ units, ∀ d ∈ u.declarations, malformation? d = none) →
        (merge units).1.Keeps (units.flatMap (·.declarations)) (units.flatMap (·.bodies))) :=
  ⟨merge_eq_none, fun sound => (history_merge (merge_eq_none.mpr sound)).keeps⟩

/-- Two units that agree on the first declaration only, and on no body. -/
def redefined : List (UnitRecord String) :=
  let declaring (name : String) (kind : DeclKind) (isFull : Bool) : Declaration String :=
    { name, kind, bases := [], methods := [], fields := [], isFull, unit := .null }
  [{ name := .text "first"
     declarations := [declaring "A" .ordinary false, declaring "B" .ordinary true]
     bodies := [⟨"run", .null, [], .null⟩], header := .null },
   { name := .text "second"
     declarations := [declaring "A" .ordinary true, declaring "B" .interface true]
     bodies := [⟨"run", .null, [.mk (.text "step") [] []], .null⟩], header := .null }]

theorem merge_keeps_redefined :
    let t := (merge redefined).1
    (∀ u ∈ redefined, ∀ d ∈ u.declarations, malformation? d = none) ∧
      t.Keeps (redefined.flatMap (·.declarations)) (redefined.flatMap (·.bodies)) ∧
        t.idOf? "B" = some 1 ∧ (t.get? "A").map (·.isFull) = some true ∧
          ¬ t.Reports .definition "A" ∧ t.Reports .definition "B" ∧ t.Reports .body "run" := by
  intro t
  have sound : ∀ u ∈ redefined, ∀ d ∈ u.declarations, malformation? d = none := by
    decide +kernel
  have keeps := (merge_keeps redefined).2 sound
  refine ⟨sound, keeps, keeps.place "B" (by decide +kernel), by decide +kernel, ?_, ?_, ?_⟩
  · rw [keeps.reported]
    exact not_contested_singleton
  · exact (keeps.reported "B").mpr ⟨_, _, rfl, _, List.mem_singleton_self _, by decide +kernel⟩
  · exact (keeps.bodyReported "run").mpr
      ⟨_, _, rfl, _, List.mem_singleton_self _, by decide +kernel⟩

end SymbolTable
end Understudy
