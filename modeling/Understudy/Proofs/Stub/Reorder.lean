import Understudy.Proofs.Stub.Accessors
import Understudy.Proofs.Stub.Memo
import Understudy.Proofs.Symbols.Reorder

/-! Doubles do not hang on the order of units.

Two tables that tell the same of every name are walked, flattened and instrumented alike, and
generators over them go through the same turns. Main statement: units may be merged in any order, as
long as their full definitions of one name say the same.
-/

set_option autoImplicit false

namespace Understudy

open Understudy.Cpp

/-! ## Canonical forms of what is built -/

def Encounter.canon : Encounter → Encounter
  | .visited d => .visited d.canon
  | .missing declaring base forward => .missing declaring base forward

def Walk.canon (w : Walk) : Walk := ⟨w.seen, w.met.map Encounter.canon⟩

def Inherited.canon (x : Inherited) : Inherited := (x.1, x.2.canon)

def Flattened.canon (f : Flattened) : Flattened :=
  { f with
    methods := f.methods.map Inherited.canon
    passthrough := f.passthrough.map Inherited.canon }

def InstrumentedMethod.canon (m : InstrumentedMethod) : InstrumentedMethod :=
  { m with method := m.method.canon, returnType := m.returnType.canon }

def PassthroughMethod.canon (m : PassthroughMethod) : PassthroughMethod :=
  { m with method := m.method.canon, returnType := m.returnType.canon }

def Stub.canon (s : Stub) : Stub :=
  { s with
    methods := s.methods.map InstrumentedMethod.canon
    passthrough := s.passthrough.map PassthroughMethod.canon }

namespace SymbolTable

variable {t u : SymbolTable} {d e : Declaration String}

/-! ## Walks -/

theorem Agrees.walkFrom (agrees : t.Agrees u) (fuel : Nat) {w w' : Walk}
    (walks : w.canon = w'.canon) (same : d.canon = e.canon) :
    (t.walkFrom fuel w d).canon = (u.walkFrom fuel w' e).canon := by
  induction fuel generalizing w w' d e with
  | zero => exact walks
  | succ fuel ih =>
    obtain ⟨seen, met⟩ := Walk.mk.inj walks
    have name : d.name = e.name := congrArg (·.name) same
    have bases : d.bases = e.bases := congrArg (·.bases) same
    unfold SymbolTable.walkFrom
    rw [seen, name, bases]
    split
    next => exact walks
    next =>
      -- Both walks go through the same bases, and each base resolves alike.
      have start : (Walk.mk (w'.seen ++ [e.name]) (w.met ++ [.visited d])).canon =
          (Walk.mk (w'.seen ++ [e.name]) (w'.met ++ [.visited e])).canon := by
        simp only [Walk.canon, List.map_append, met, List.map_cons, List.map_nil, Encounter.canon,
          same]
      generalize Walk.mk (w'.seen ++ [e.name]) (w.met ++ [.visited d]) = v at start
      generalize Walk.mk (w'.seen ++ [e.name]) (w'.met ++ [.visited e]) = v' at start
      induction e.bases generalizing v v' with
      | nil => exact start
      | cons base rest others =>
        rw [List.foldl_cons, List.foldl_cons]
        apply others
        have missed (forward : Option String) :
            (Walk.mk v.seen (v.met ++ [.missing e.name base forward])).canon =
              (Walk.mk v'.seen (v'.met ++ [.missing e.name base forward])).canon := by
          obtain ⟨seen, met⟩ := Walk.mk.inj start
          simp only [Walk.canon, List.map_append, seen, met]
        rcases alike_cases (agrees.resolve? base e.name) with
          ⟨unknown, unknown'⟩ | ⟨b, b', found, found', alike⟩
        · rw [unknown, unknown']
          exact missed none
        · rw [found, found']
          dsimp only
          rw [Declaration.isFull_of_gist alike, Declaration.name_of_gist alike]
          split
          next full =>
            refine ih start (Declaration.canon_of_gist alike ?_)
            rw [Declaration.isFull_of_gist alike, full]
          next => exact missed _

theorem Agrees.walk (agrees : t.Agrees u) (same : d.canon = e.canon) :
    (t.walk d).map Encounter.canon = (u.walk e).map Encounter.canon := by
  unfold SymbolTable.walk
  rw [agrees.length]
  exact (Walk.mk.inj (agrees.walkFrom _ rfl same)).2

end SymbolTable

/-! ## Flattening -/

theorem Encounter.declaration?_canon (x : Encounter) :
    x.canon.declaration? = x.declaration?.map Declaration.canon := by
  cases x <;> rfl

theorem Encounter.unresolved?_canon (x : Encounter) : x.canon.unresolved? = x.unresolved? := by
  cases x <;> rfl

theorem Encounter.report?_canon (x : Encounter) : x.canon.report? = x.report? := by
  cases x <;> rfl

theorem Encounter.isSpelled_canon (x : Encounter) : x.canon.isSpelled = x.isSpelled := by
  cases x with
  | missing => rfl
  | visited d =>
    have overridden : (fun m : Method String => isOverridden d.name m.canon) =
        isOverridden d.name := by
      funext m
      rw [isOverridden, isOverridden, Method.isOrdinary_canon, Method.specialMember?_canon]
      rfl
    simp only [Encounter.canon, Encounter.isSpelled, Declaration.canon, List.filter_map,
      List.all_map, Function.comp_def, Method.isSpelled_canon, overridden]

theorem pureMethods_canon (d : Declaration String) :
    pureMethods d.canon = (pureMethods d).map Inherited.canon := by
  simp only [pureMethods, Declaration.canon, List.filter_map, List.map_map]
  rfl

theorem firstBySignature_canon (known : List Signature) (xs : List Inherited) :
    firstBySignature known (xs.map Inherited.canon) =
      (firstBySignature known xs).map Inherited.canon := by
  induction xs generalizing known with
  | nil => rfl
  | cons x rest ih =>
    obtain ⟨declaring, m⟩ := x
    simp only [List.map_cons, Inherited.canon, firstBySignature, Method.signature_canon]
    split
    next => exact ih known
    next =>
      rw [List.map_cons, ← ih]
      rfl

theorem firstBySignature_filter_canon {p : Inherited → Bool} (fits : ∀ x, p x.canon = p x)
    {xs ys : List Inherited} (same : xs.map Inherited.canon = ys.map Inherited.canon) :
    (firstBySignature [] (xs.filter p)).map Inherited.canon =
      (firstBySignature [] (ys.filter p)).map Inherited.canon := by
  have fits : p ∘ Inherited.canon = p := funext fits
  have kept (zs : List Inherited) :
      (zs.filter p).map Inherited.canon = (zs.map Inherited.canon).filter p := by
    rw [List.filter_map, fits]
  rw [← firstBySignature_canon, ← firstBySignature_canon, kept, kept, same]

namespace SymbolTable

variable {t u : SymbolTable} {d e : Declaration String}

theorem Agrees.collected (agrees : t.Agrees u) (same : d.canon = e.canon) :
    (t.collected d).map Inherited.canon = (u.collected e).map Inherited.canon := by
  have lineages {t : SymbolTable} {d : Declaration String} : (t.collected d).map Inherited.canon =
      (((t.walk d).map Encounter.canon).filterMap (·.declaration?)).flatMap pureMethods := by
    have declared : ((t.walk d).map Encounter.canon).filterMap (·.declaration?) =
        (t.lineage d).map Declaration.canon := by
      rw [List.filterMap_map, lineage, List.map_filterMap]
      exact congrArg (List.filterMap · (t.walk d)) (funext Encounter.declaration?_canon)
    rw [declared, List.flatMap_map, SymbolTable.collected, List.map_flatMap]
    simp only [pureMethods_canon]
  rw [lineages, lineages, agrees.walk same]

theorem Agrees.flatten (agrees : t.Agrees u) (same : d.canon = e.canon) :
    (t.flatten d).canon = (u.flatten e).canon := by
  have walks := agrees.walk same
  have methods := agrees.collected same
  have unresolved : Encounter.unresolved? ∘ Encounter.canon = Encounter.unresolved? :=
    funext Encounter.unresolved?_canon
  have report : Encounter.report? ∘ Encounter.canon = Encounter.report? :=
    funext Encounter.report?_canon
  have spelled : Encounter.isSpelled ∘ Encounter.canon = Encounter.isSpelled :=
    funext Encounter.isSpelled_canon
  simp only [SymbolTable.flatten, Flattened.canon, Flattened.mk.injEq]
  refine ⟨?methods, ?passthrough, ?unresolved, ?reports, ?isSpelled⟩
  case methods =>
    refine firstBySignature_filter_canon (fun x => ?_) methods
    exact Method.isOrdinary_canon x.2 x.1
  case passthrough =>
    refine firstBySignature_filter_canon (fun x => ?_) methods
    exact congrArg (· == some SpecialMember.assignment) (Method.specialMember?_canon x.2 x.1)
  case unresolved =>
    have missing := congrArg (List.filterMap Encounter.unresolved?) walks
    rwa [List.filterMap_map, List.filterMap_map, unresolved] at missing
  case reports =>
    have told := congrArg (fun met => (List.takeWhile Encounter.isSpelled met).filterMap
      Encounter.report?) walks
    simp only [List.takeWhile_map, List.filterMap_map, report, spelled] at told
    exact told
  case isSpelled =>
    have all := congrArg (List.all · Encounter.isSpelled) walks
    simp only [List.all_map, spelled] at all
    exact all

end SymbolTable

/-! ## Building a double -/

namespace Accessor

theorem isUnique_canon (methods : List (Method String)) (m : Method String) :
    isUnique (methods.map Method.canon) m.canon = isUnique methods m := by
  unfold isUnique
  rw [List.filter_map, List.length_map]
  rfl

theorem assign_canon (methods : List (Method String)) (used : List String)
    (ms : List (Method String)) :
    assign (methods.map Method.canon) used (ms.map Method.canon) = assign methods used ms := by
  induction ms generalizing used with
  | nil => rfl
  | cons m rest ih =>
    simp only [List.map_cons, assign, isUnique_canon, Method.mangled_canon, ih]
    rfl

theorem names_canon (methods : List (Method String)) :
    names (methods.map Method.canon) = names methods := by
  have unique : isUnique (methods.map Method.canon) ∘ Method.canon = isUnique methods :=
    funext fun m => isUnique_canon methods m
  unfold names
  rw [List.filter_map, unique, List.map_map, assign_canon]
  rfl

end Accessor

theorem forall₂_of_map_eq {α β : Type} {xs ys : List α} {canon : α → β}
    (same : xs.map canon = ys.map canon) :
    List.Forall₂ (fun x y => canon x = canon y) xs ys := by
  rwa [← List.forall₂_eq_eq_eq, List.forall₂_map_left_iff, List.forall₂_map_right_iff] at same

theorem outcome_cases {α β ε : Type} {a b : Except ε α} {canon : α → β}
    (same : a.map canon = b.map canon) :
    (∃ fault, a = .error fault ∧ b = .error fault) ∨
      ∃ x y, a = .ok x ∧ b = .ok y ∧ canon x = canon y := by
  cases a with
  | error fault =>
    cases b with
    | error other => exact .inl ⟨fault, rfl, congrArg _ (Except.error.inj same).symm⟩
    | ok y => cases same
  | ok x =>
    cases b with
    | error other => cases same
    | ok y => exact .inr ⟨x, y, rfl, rfl, Except.ok.inj same⟩

theorem map_mapM_eq {α β γ ε : Type} {xs ys : List α} {f g : α → Except ε β} {canon : β → γ}
    (same : List.Forall₂ (fun x y => (f x).map canon = (g y).map canon) xs ys) :
    (xs.mapM f).map (List.map canon) = (ys.mapM g).map (List.map canon) := by
  induction same with
  | nil => rfl
  | cons first _ ih =>
    rw [List.mapM_cons, List.mapM_cons]
    rcases outcome_cases first with ⟨fault, made, made'⟩ | ⟨a, b, made, made', alike⟩
    · rw [made, made']
      rfl
    · rw [made, made']
      rcases outcome_cases ih with ⟨fault, others, others'⟩ | ⟨as, bs, others, others', alike'⟩
      · rw [others, others']
        rfl
      · rw [others, others']
        simp only [Bind.bind, Except.bind, Except.map, pure, Except.pure, List.map_cons, alike,
          alike']

namespace SymbolTable

variable {t u : SymbolTable} {d e : Declaration String}

theorem handsOutUnfit_canon (type : SemanticType) :
    handsOutUnfit type.canon = handsOutUnfit type := by
  cases type with
  | pointer inner | reference inner => cases inner <;> rfl
  | _ => rfl

theorem returnKind_canon (t : SymbolTable) (declaring : String) (type : SemanticType) :
    t.returnKind declaring type.canon = t.returnKind declaring type := by
  cases type with
  | pointer inner | reference inner => cases inner <;> rfl
  | _ => rfl

theorem Agrees.returnKind (agrees : t.Agrees u) (declaring : String) (type : SemanticType) :
    t.returnKind declaring type = u.returnKind declaring type := by
  cases type with
  | pointer inner | reference inner =>
    cases inner with
    | named name =>
      rcases alike_cases (agrees.resolve? name declaring) with
        ⟨unknown, unknown'⟩ | ⟨d, e, found, found', alike⟩
      · simp only [SymbolTable.returnKind, unknown, unknown']
      · simp only [SymbolTable.returnKind, found, found', Declaration.handed_of_gist alike]
    | _ => rfl
  | _ => rfl

theorem Agrees.instrument (agrees : t.Agrees u) {x y : Inherited} (same : x.canon = y.canon)
    (accessor : String) :
    (t.instrument x accessor).map InstrumentedMethod.canon =
      (u.instrument y accessor).map InstrumentedMethod.canon := by
  obtain ⟨declaring, m⟩ := x
  obtain ⟨declaring', n⟩ := y
  obtain ⟨rfl, methods⟩ := Prod.mk.inj same
  have returned : m.returnType.map SemanticType.canon = n.returnType.map SemanticType.canon :=
    congrArg (·.returnType) methods
  unfold SymbolTable.instrument
  dsimp only
  cases first : m.returnType with
  | none =>
    rw [first] at returned
    rw [Option.map_eq_none_iff.mp returned.symm]
  | some type =>
    rw [first] at returned
    obtain ⟨type', second, types⟩ := Option.map_eq_some_iff.mp returned.symm
    have unfit : handsOutUnfit type = handsOutUnfit type' := by
      rw [← handsOutUnfit_canon, ← types, handsOutUnfit_canon]
    have kinds : t.returnKind declaring type = u.returnKind declaring type' := by
      rw [agrees.returnKind, ← returnKind_canon, ← types, returnKind_canon]
    rw [second]
    dsimp only
    rw [unfit, kinds]
    split
    next => rfl
    next => simp only [Except.map, InstrumentedMethod.canon, methods, types]

theorem passThrough_canon {x y : Inherited} (same : x.canon = y.canon) :
    (passThrough x).map PassthroughMethod.canon = (passThrough y).map PassthroughMethod.canon := by
  obtain ⟨declaring, m⟩ := x
  obtain ⟨declaring', n⟩ := y
  obtain ⟨rfl, methods⟩ := Prod.mk.inj same
  have returned : m.returnType.map SemanticType.canon = n.returnType.map SemanticType.canon :=
    congrArg (·.returnType) methods
  unfold passThrough
  dsimp only
  cases first : m.returnType with
  | none =>
    rw [first] at returned
    rw [Option.map_eq_none_iff.mp returned.symm]
  | some type =>
    rw [first] at returned
    obtain ⟨type', second, types⟩ := Option.map_eq_some_iff.mp returned.symm
    rw [second]
    simp only [Except.map, PassthroughMethod.canon, methods, types]

theorem Agrees.buildStub (agrees : t.Agrees u) (lead : Value) (same : d.canon = e.canon) :
    (t.buildStub lead d).map Stub.canon = (u.buildStub lead e).map Stub.canon := by
  have name : d.name = e.name := congrArg (·.name) same
  obtain ⟨methods, passthrough, unresolved, _, spelled⟩ :=
    Flattened.mk.inj (agrees.flatten same)
  -- Accessors are made from what methods say, so both lists of methods get one list of them.
  have accessors : Accessor.names ((t.flatten d).methods.map (·.2)) =
      Accessor.names ((u.flatten e).methods.map (·.2)) := by
    have both := congrArg (List.map Prod.snd) methods
    rw [List.map_map, List.map_map] at both
    rw [← Accessor.names_canon ((t.flatten d).methods.map _),
      ← Accessor.names_canon ((u.flatten e).methods.map _), List.map_map, List.map_map]
    exact congrArg Accessor.names both
  have named : List.Forall₂ (fun x y : Inherited × String =>
      (t.instrument x.1 x.2).map InstrumentedMethod.canon =
        (u.instrument y.1 y.2).map InstrumentedMethod.canon)
      ((t.flatten d).methods.zip (Accessor.names ((u.flatten e).methods.map (·.2))))
      ((u.flatten e).methods.zip (Accessor.names ((u.flatten e).methods.map (·.2)))) := by
    have zipped := congrArg (List.zip · (Accessor.names ((u.flatten e).methods.map (·.2)))) methods
    rw [List.zip_map_left, List.zip_map_left] at zipped
    refine (forall₂_of_map_eq zipped).imp fun x y alike => ?_
    obtain ⟨inherited, accessor⟩ := Prod.mk.inj alike
    rw [show x.2 = y.2 from accessor]
    exact agrees.instrument inherited y.2
  have instrumented := map_mapM_eq named
  have passed := map_mapM_eq ((forall₂_of_map_eq passthrough).imp fun _ _ => passThrough_canon)
  unfold SymbolTable.buildStub
  dsimp only
  rw [spelled, accessors, unresolved, name]
  split
  next => rfl
  next =>
    rcases outcome_cases instrumented with
      ⟨fault, made, made'⟩ | ⟨ms, ns, made, made', methods⟩
    · rw [made, made']
      rfl
    rcases outcome_cases passed with ⟨fault, taken, taken'⟩ | ⟨ps, qs, taken, taken', passthrough⟩
    · rw [made, made', taken, taken']
      rfl
    have nested : ms.filterMap (·.nested) = ns.filterMap (·.nested) := by
      have both := congrArg (List.filterMap (·.nested)) methods
      rwa [List.filterMap_map, List.filterMap_map] at both
    rw [made, made', taken, taken']
    cases lead.text? with
    | none => rfl
    | some text =>
      simp only [Bind.bind, Except.bind, Except.map, pure, Except.pure, Stub.canon, methods,
        passthrough, nested]

theorem Agrees.interface (agrees : t.Agrees u) (name : String) :
    (∃ why why', t.interface name = .error why ∧ u.interface name = .error why') ∨
      ∃ d e, t.interface name = .ok d ∧ u.interface name = .ok e ∧ d.canon = e.canon := by
  rcases alike_cases (agrees.resolve? name "") with
    ⟨unknown, unknown'⟩ | ⟨d, e, found, found', alike⟩
  · refine .inl ⟨.undeclared name, .undeclared name, ?_, ?_⟩
    · rw [SymbolTable.interface, unknown]
    · rw [SymbolTable.interface, unknown']
  · cases full : d.isFull with
    | false =>
      -- A forward declaration stands for no interface, whatever kind it states.
      have refused {t : SymbolTable} {d : Declaration String}
          (found : t.resolve? name "" = some d) (forward : d.isFull = false) :
          ∃ why, t.interface name = .error why := by
        rw [SymbolTable.interface, found]
        cases kind : d.isInterface <;> simp [kind, forward]
      obtain ⟨why, first⟩ := refused found full
      obtain ⟨why', second⟩ := refused found' (Declaration.isFull_of_gist alike ▸ full)
      exact .inl ⟨why, why', first, second⟩
    | true =>
      have full' : e.isFull = true := Declaration.isFull_of_gist alike ▸ full
      have same := Declaration.canon_of_gist alike full
      have kinds := Declaration.isInterface_of_canon same
      rw [SymbolTable.interface, SymbolTable.interface, found, found']
      cases kind : d.isInterface with
      | false =>
        rw [kind] at kinds
        exact .inl ⟨.notInterface d.name, .notInterface e.name, by simp [kind], by simp [← kinds]⟩
      | true =>
        rw [kind] at kinds
        exact .inr ⟨d, e, by simp [kind, full], by simp [← kinds, full'], same⟩

theorem isFullInterface_of_mem_nested {lead : Value} {stub : Stub}
    (made : t.buildStub lead d = .ok stub) {name : String} (member : name ∈ stub.nested) :
    t.IsFullInterface name := by
  rw [(isNamed_of_buildStub made).nested, List.mem_eraseDups] at member
  obtain ⟨m, own, handed⟩ := List.mem_filterMap.mp member
  exact (nested_of_returnKind made own).2 name handed

end SymbolTable

namespace Generator

variable {g h : Generator}

/-! ## Two generators in step -/

/-- Two generators keep equal doubles, over tables that tell the same. -/
structure Agrees (g h : Generator) : Prop where
  arena : g.table.IsArena
  table : g.table.Agrees h.table
  lead : g.lead = h.lead
  memo : g.memo.map (fun e => (e.1, e.2.canon)) = h.memo.map fun e => (e.1, e.2.canon)

theorem Agrees.get? (agrees : g.Agrees h) (name : String) :
    (g.memo.get? name).map Stub.canon = (h.memo.get? name).map Stub.canon := by
  rw [← Assoc.get?_map, agrees.memo, Assoc.get?_map]

theorem Agrees.has (agrees : g.Agrees h) (name : String) : g.memo.has name = h.memo.has name := by
  have same := congrArg Option.isSome (agrees.get? name)
  rwa [Option.isSome_map, Option.isSome_map] at same

theorem Agrees.reportFlat (agrees : g.Agrees h) (d e : Declaration String) :
    (g.reportFlat d).Agrees (h.reportFlat e) :=
  ⟨⟨agrees.arena.ids, agrees.arena.sound⟩,
    ⟨agrees.table.length, agrees.table.kept, agrees.table.unique⟩, agrees.lead, agrees.memo⟩

theorem Agrees.keep (agrees : g.Agrees h) {d e : Declaration String} (name : d.name = e.name)
    {stub stub' : Stub} (same : stub.canon = stub'.canon) :
    Agrees { g.reportFlat d with memo := g.memo.set d.name stub }
      { h.reportFlat e with memo := h.memo.set e.name stub' } := by
  have reported := agrees.reportFlat d e
  refine ⟨reported.arena, reported.table, reported.lead, ?_⟩
  rw [Assoc.map_set, Assoc.map_set, agrees.memo, name, same]

theorem Agrees.work (agrees : g.Agrees h) (fuel : Nat) {worklist : List String}
    (full : ∀ name ∈ worklist, g.table.IsFullInterface name) :
    (work fuel g worklist).2 = (work fuel h worklist).2 ∧
      (work fuel g worklist).1.Agrees (work fuel h worklist).1 := by
  -- Both loops pass over the same names, and keep doubles that count as equal.
  induction fuel generalizing g h worklist with
  | zero => exact ⟨rfl, agrees⟩
  | succ fuel ih =>
    have known : (fun name => h.memo.has name) = fun name => g.memo.has name :=
      funext fun name => (agrees.has name).symm
    unfold Generator.work
    rw [known]
    split
    next => exact ⟨rfl, agrees⟩
    next name rest left =>
      have due {other : String} (member : other ∈ name :: rest) : other ∈ worklist :=
        (List.dropWhile_suffix _).subset (left ▸ member)
      rcases SymbolTable.alike_cases (agrees.table.kept name) with
        ⟨missing, missing'⟩ | ⟨d, e, found, found', alike⟩
      · rw [missing, missing']
        exact ⟨rfl, agrees⟩
      · -- Of a forward declaration only the name need be the same; no such name waits here.
        obtain ⟨b, declared, rfl, _, defined⟩ := full name (due List.mem_cons_self)
        rw [agrees.arena.get?_eq_some.mpr ⟨declared, rfl⟩] at found
        cases found
        rw [agrees.arena.get?_eq_some.mpr ⟨declared, rfl⟩, found']
        dsimp only
        have built := agrees.table.buildStub g.lead (Declaration.canon_of_gist alike defined)
        rw [← agrees.lead]
        rcases outcome_cases built with
          ⟨slip, failed, failed'⟩ | ⟨stub, stub', made, made', same⟩
        · rw [failed, failed']
          exact ⟨rfl, agrees.reportFlat _ e⟩
        · rw [made, made']
          have nested : stub.nested = stub'.nested := congrArg (·.nested) same
          dsimp only
          rw [← nested]
          refine ih (agrees.keep (Declaration.name_of_gist alike) same) ?_
          intro other member
          rcases List.mem_append.mp member with later | handed
          · exact full other (due (List.mem_cons_of_mem _ later))
          · exact SymbolTable.isFullInterface_of_mem_nested made handed

inductive SameAnswer : Except GenerateFault Stub → Except GenerateFault Stub → Prop where
  | stub {s s' : Stub} : s.canon = s'.canon → SameAnswer (.ok s) (.ok s')
  | refused (why why' : InterfaceFault) :
      SameAnswer (.error (.interface why)) (.error (.interface why'))
  | slip (slip : Slip) : SameAnswer (.error (.slip slip)) (.error (.slip slip))

theorem Agrees.generate (agrees : g.Agrees h) (name : String) :
    SameAnswer (g.generate name).2 (h.generate name).2 ∧
      (g.generate name).1.Agrees (h.generate name).1 := by
  unfold Generator.generate
  rcases agrees.table.interface name with
    ⟨why, why', refused, refused'⟩ | ⟨d, e, stands, stands', same⟩
  · rw [refused, refused']
    exact ⟨.refused why why', agrees⟩
  · have named : d.name = e.name := congrArg (·.name) same
    obtain ⟨declared, proper, defined⟩ := SymbolTable.isFullInterface_of_interface stands
    have full : ∀ other ∈ [d.name], g.table.IsFullInterface other := by
      intro other member
      rw [List.mem_singleton.mp member]
      exact ⟨d, declared, rfl, proper, defined⟩
    have worked := agrees.work (g.table.declarations.length + 1) full
    rw [stands, stands']
    dsimp only
    rw [← agrees.table.length, ← named]
    revert worked
    rcases Generator.work (g.table.declarations.length + 1) g [d.name] with ⟨after, fault⟩
    rcases Generator.work (g.table.declarations.length + 1) h [d.name] with ⟨after', fault'⟩
    rintro ⟨faults, agrees⟩
    cases (faults : fault = fault')
    cases fault with
    | some slip => exact ⟨.slip slip, agrees⟩
    | none =>
      have kept : (after.memo.get? d.name).map Stub.canon =
          (after'.memo.get? d.name).map Stub.canon := agrees.get? d.name
      dsimp only
      cases first : after.memo.get? d.name with
      | none =>
        rw [first] at kept
        rw [Option.map_eq_none_iff.mp kept.symm]
        exact ⟨.slip .noKey, agrees⟩
      | some stub =>
        rw [first] at kept
        obtain ⟨stub', second, equal⟩ := Option.map_eq_some_iff.mp kept.symm
        rw [second]
        exact ⟨.stub equal.symm, agrees⟩

theorem Agrees.generateEach (agrees : g.Agrees h) (names : List String) :
    (g.generateEach names).1.Agrees (h.generateEach names).1 := by
  induction names generalizing g h with
  | nil => exact agrees
  | cons name rest ih =>
    obtain ⟨answer, agrees⟩ := agrees.generate name
    unfold Generator.generateEach
    revert answer agrees
    rcases g.generate name with ⟨after, outcome⟩
    rcases h.generate name with ⟨after', outcome'⟩
    intro answer agrees
    cases (answer : SameAnswer outcome outcome') with
    | stub => exact ih agrees
    | refused => exact agrees
    | slip => exact agrees

theorem Agrees.serveAll (agrees : g.Agrees h) (requests : List Request) :
    (g.serveAll requests).Agrees (h.serveAll requests) := by
  induction requests generalizing g h with
  | nil => exact agrees
  | cons r rest ih =>
    have served : (g.serve r).Agrees (h.serve r) := by
      rw [serve_eq, serve_eq]
      exact agrees.generateEach r.names
    exact ih served

end Generator

namespace SymbolTable

variable {units others : List (UnitRecord String)}

/-- Nothing that is asked of two tables by name tells them apart. -/
structure SaysTheSame (t u : SymbolTable) : Prop where
  declares : ∀ name, t.contains name = u.contains name
  /-- Full definitions are the same, wherever they come from. -/
  defines : ∀ name, ((t.get? name).filter (·.isFull)).map Declaration.canon =
    ((u.get? name).filter (·.isFull)).map Declaration.canon
  resolves : ∀ name context, (t.resolve? name context).map (·.name) =
    (u.resolve? name context).map (·.name)
  /-- After any requests, and with any leading words, requests are answered alike. -/
  answers : ∀ (c c' : Option Classification) (lead : Value) (requests : List Request)
    (name : String), Generator.SameAnswer
      ((Generator.serveAll ⟨t, c, lead, []⟩ requests).generate name).2
      ((Generator.serveAll ⟨u, c', lead, []⟩ requests).generate name).2
  /-- Where documents are written as they should be, an interface is refused or has its double. -/
  sound : t.IsSpelled → ∀ (c : Option Classification) (lead : String)
    (requests : List Request) (name : String) (slip : Slip),
      ((Generator.serveAll ⟨t, c, .text lead, []⟩ requests).generate name).2 ≠ .error (.slip slip)

theorem saysTheSame_of_agrees {t u : SymbolTable} (first : t.IsArena) (second : u.IsArena)
    (agrees : t.Agrees u) : SaysTheSame t u where
  declares name := by
    have known {t : SymbolTable} (arena : t.IsArena) :
        t.contains name = ((t.get? name).map Declaration.gist).isSome := by
      rw [contains, Option.isSome_map, Bool.eq_iff_iff, Option.isSome_iff_ne_none,
        Option.isSome_iff_ne_none, ne_eq, ne_eq, get?_eq_none arena]
    rw [known first, known second, agrees.kept]
  defines name := by
    rcases alike_cases (agrees.kept name) with ⟨none, none'⟩ | ⟨d, e, found, found', alike⟩
    · rw [none, none']
    · rw [found, found']
      cases full : d.isFull with
      | false =>
        have full' : e.isFull = false := Declaration.isFull_of_gist alike ▸ full
        simp [Option.filter, full, full']
      | true =>
        have full' : e.isFull = true := Declaration.isFull_of_gist alike ▸ full
        simp [Option.filter, full, full', Declaration.canon_of_gist alike full]
  resolves name context := by
    rcases alike_cases (agrees.resolve? name context) with
      ⟨none, none'⟩ | ⟨d, e, found, found', alike⟩
    · rw [none, none']
    · rw [found, found', Option.map_some, Option.map_some, Declaration.name_of_gist alike]
  answers c c' lead requests name := by
    have start : Generator.Agrees ⟨t, c, lead, []⟩ ⟨u, c', lead, []⟩ := ⟨first, agrees, rfl, rfl⟩
    exact ((start.serveAll requests).generate name).1
  sound spelled c lead requests name slip := by
    obtain ⟨owes, _⟩ := (Generator.owes_fresh t c lead).serveAll first spelled requests
    intro failed
    obtain ⟨why, same, _⟩ := ((owes.serves first spelled).refuses name (.slip slip)).mp failed
    cases same

/-- Units may be merged in any order, as long as their full definitions of one name say the same. -/
theorem saysTheSame_of_perm (perm : units.Perm others)
    (consonant : Consonant (units.flatMap (·.declarations))) :
    ((merge units).2 = none ↔ (merge others).2 = none) ∧
      ((merge units).2 = none → SaysTheSame (merge units).1 (merge others).1) :=
  ⟨merge_eq_none_of_perm perm, fun merged =>
    saysTheSame_of_agrees (built_merge units).isArena (built_merge others).isArena
      (agrees_merge perm consonant merged)⟩

/-- Two units that share a name, and a third one that declares it forward, as a class and as an
interface. -/
def shared : List (UnitRecord String) :=
  let f : Method String :=
    { name := "f", parameters := []
      returnType := some (.pointer (.named "I" false) false), isPure := true
      isConst := false, visibility := .public }
  let declaring (name : String) (kind : DeclKind) (unit : String) (full : Bool)
      (methods : List (Method String)) : Declaration String :=
    { name, kind, bases := [], methods, fields := [], isFull := full, unit := .text unit }
  [{ name := .text "first"
     declarations := [declaring "ns::I" .interface "first" true [f],
       declaring "G" .interface "first" false []]
     bodies := [], header := .null },
   { name := .text "second"
     declarations := [declaring "G" .ordinary "second" false [],
       declaring "ns::I" .interface "second" true [f]]
     bodies := [], header := .null },
   { name := .text "third"
     declarations := [declaring "H" .ordinary "third" true []]
     bodies := [], header := .null }]

/-- The arenas differ and what is kept of the forward declaration does, and answers are the same. -/
theorem saysTheSame_shared :
    shared.Perm shared.reverse ∧ Consonant (shared.flatMap (·.declarations)) ∧
      (merge shared).2 = none ∧ (merge shared).1.names = ["ns::I", "G", "H"] ∧
        (merge shared.reverse).1.names = ["H", "G", "ns::I"] ∧
          ((merge shared).1.get? "G").map (·.kind) = some .interface ∧
            ((merge shared.reverse).1.get? "G").map (·.kind) = some .ordinary ∧
              SaysTheSame (merge shared).1 (merge shared.reverse).1 := by
  have perm : shared.Perm shared.reverse := (List.reverse_perm shared).symm
  have consonant : Consonant (shared.flatMap (·.declarations)) := by
    unfold Consonant
    decide +kernel
  have merged : (merge shared).2 = none := by decide +kernel
  exact ⟨perm, consonant, merged, by decide +kernel, by decide +kernel, by decide +kernel,
    by decide +kernel, (saysTheSame_of_perm perm consonant).2 merged⟩

end SymbolTable
end Understudy
