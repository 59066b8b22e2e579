import Mathlib.Data.List.Nodup
import Mathlib.Data.List.Perm.Subperm
import Understudy.Proofs.Stub.Build
import Understudy.Text.Numeral

/-! Accessors tell the methods of a double apart.

A method that alone has its identifier goes by it, and these names are taken before any other is
given out. Every overload gets the first name that is not taken by then.
-/

set_option autoImplicit false

namespace Understudy

open Understudy.Cpp

namespace Accessor

variable {used : List String} {name : String}

theorem numbered_inj {i j : Nat} (same : numbered name i = numbered name j) : i = j := by
  unfold numbered at same
  rw [String.append_assoc, String.append_assoc, String.append_right_inj,
    String.append_right_inj] at same
  exact Text.toString_inj same

theorem exists_free (used : List String) (name : String) :
    ∃ n ∈ List.range (used.length + 1), numbered name (n + 2) ∉ used := by
  let candidates := (List.range (used.length + 1)).map fun n => numbered name (n + 2)
  have distinct : candidates.Nodup := by
    refine List.Nodup.map (fun i j same => ?_) List.nodup_range
    have shifted := numbered_inj same
    omega
  have missing : ¬ candidates ⊆ used := by
    intro taken
    have bound := (distinct.subperm taken).length_le
    rw [List.length_map, List.length_range] at bound
    omega
  rw [List.subset_def, not_forall] at missing
  obtain ⟨candidate, missing⟩ := missing
  obtain ⟨listed, free⟩ := Classical.not_imp.mp missing
  obtain ⟨n, ranged, rfl⟩ := List.mem_map.mp listed
  exact ⟨n, ranged, free⟩

/-- The first of a name and its numbered forms, from two on, that is not taken. -/
inductive FirstFree (taken : String → Prop) (name : String) : String → Prop where
  | plain : ¬ taken name → FirstFree taken name name
  | numbered {n : Nat} : 2 ≤ n → taken name → (∀ k, 2 ≤ k → k < n → taken (numbered name k)) →
      ¬ taken (numbered name n) → FirstFree taken name (numbered name n)

theorem firstFree_fresh (used : List String) (name : String) :
    FirstFree (· ∈ used) name (fresh used name) := by
  unfold fresh
  split
  next free => exact .plain (by simpa using free)
  next busy =>
    obtain ⟨n, ranged, free⟩ := exists_free used name
    have found : ((List.range (used.length + 1)).find? fun n =>
        !used.contains (numbered name (n + 2))).isSome :=
      List.find?_isSome.mpr ⟨n, ranged, by simpa using free⟩
    obtain ⟨least, first⟩ := Option.isSome_iff_exists.mp found
    have chosen : ((List.range (used.length + 1)).map fun n => numbered name (n + 2)).find?
        (!used.contains ·) = some (numbered name (least + 2)) := by
      rw [List.find?_map]
      exact congrArg (Option.map _) first
    dsimp only
    rw [chosen, Option.getD_some]
    obtain ⟨free, _, before⟩ := List.find?_range_eq_some.mp first
    refine .numbered (by omega) (by simpa using busy) (fun k above below => ?_) (by simpa using free)
    have taken := before (k - 2) (by omega)
    rw [Nat.sub_add_cancel above] at taken
    simpa using taken

theorem FirstFree.congr {taken taken' : String → Prop} {chosen : String}
    (same : ∀ name, taken name ↔ taken' name) (first : FirstFree taken name chosen) :
    FirstFree taken' name chosen := by
  have equal : taken = taken' := funext fun name => propext (same name)
  rwa [equal] at first

theorem FirstFree.free {taken : String → Prop} {chosen : String}
    (first : FirstFree taken name chosen) : ¬ taken chosen := by
  cases first with
  | plain free => exact free
  | numbered _ _ _ free => exact free

theorem fresh_notMem (used : List String) (name : String) : fresh used name ∉ used :=
  (firstFree_fresh used name).free

variable {methods : List (Method String)}

theorem isUnique_apart {m other : Method String} {rest : List (Method String)}
    (part : (m :: rest).Sublist methods) (unique : isUnique methods m = true)
    (member : other ∈ rest) : other.identifier ≠ m.identifier := by
  intro same
  have one : (methods.filter (·.identifier == m.identifier)).length = 1 := by
    simpa [isUnique] using unique
  have both := (part.filter (·.identifier == m.identifier)).length_le
  rw [List.filter_cons_of_pos (by simp), List.length_cons, one] at both
  have listed : other ∈ rest.filter (·.identifier == m.identifier) :=
    List.mem_filter.mpr ⟨member, by simp [same]⟩
  have := List.length_pos_of_mem listed
  omega

/-- Names are given out once each, and those of overloads only while they are free. -/
theorem nodup_assign (used : List String) (ms : List (Method String)) (part : ms.Sublist methods)
    (reserved : ∀ m ∈ ms, isUnique methods m = true → m.identifier ∈ used) :
    (assign methods used ms).Nodup ∧ ∀ name ∈ assign methods used ms,
      name ∉ used ∨ ∃ m ∈ ms, isUnique methods m = true ∧ m.identifier = name := by
  -- A name given out later is new to what is in use by then, or reserved for a method of its own.
  induction ms generalizing used with
  | nil => exact ⟨.nil, by simp [assign]⟩
  | cons m rest ih =>
    have shorter : rest.Sublist methods := (List.sublist_cons_self m rest).trans part
    have later : ∀ other ∈ rest, isUnique methods other = true → other.identifier ∈ used :=
      fun other member => reserved other (List.mem_cons_of_mem _ member)
    unfold assign
    split
    next unique =>
      obtain ⟨distinct, given⟩ := ih used shorter later
      refine ⟨List.nodup_cons.mpr ⟨fun again => ?_, distinct⟩, fun name member => ?_⟩
      · rcases given _ again with free | ⟨other, member, _, same⟩
        · exact free (reserved m List.mem_cons_self unique)
        · exact isUnique_apart part unique member same
      · rcases List.mem_cons.mp member with rfl | other
        · exact .inr ⟨m, List.mem_cons_self, unique, rfl⟩
        · refine (given name other).imp_right ?_
          rintro ⟨n, member, unique, same⟩
          exact ⟨n, List.mem_cons_of_mem _ member, unique, same⟩
    next =>
      have free := fresh_notMem used m.mangled
      obtain ⟨distinct, given⟩ := ih (used ++ [fresh used m.mangled]) shorter
        fun other member unique => List.mem_append_left _ (later other member unique)
      refine ⟨List.nodup_cons.mpr ⟨fun again => ?_, distinct⟩, fun name member => ?_⟩
      · rcases given _ again with unused | ⟨other, member, unique, same⟩
        · exact unused (by simp)
        · exact free (same ▸ later other member unique)
      · rcases List.mem_cons.mp member with rfl | other
        · exact .inl free
        · rcases given name other with unused | ⟨n, member, unique, same⟩
          · exact .inl fun known => unused (List.mem_append_left _ known)
          · exact .inr ⟨n, List.mem_cons_of_mem _ member, unique, same⟩

theorem nodup_names (methods : List (Method String)) : (names methods).Nodup := by
  refine (nodup_assign _ methods (.refl _) fun m member unique => ?_).1
  exact List.mem_map_of_mem (List.mem_filter.mpr ⟨member, unique⟩)

/-- No other place in a list holds a method with the identifier of the method at a place. -/
def IsAlone (methods : List (Method String)) (i : Nat) (m : Method String) : Prop :=
  ∀ j other, methods[j]? = some other → other.identifier = m.identifier → j = i

/-- A method alone has the name as its identifier, or the name is among those given. -/
def IsTaken (methods : List (Method String)) (given : List String) (name : String) : Prop :=
  (∃ i m, methods[i]? = some m ∧ IsAlone methods i m ∧ m.identifier = name) ∨ name ∈ given

theorem exists_split_of_getElem? {α : Type} {xs : List α} {i : Nat} {x : α}
    (placed : xs[i]? = some x) : ∃ before after, xs = before ++ x :: after ∧ before.length = i := by
  obtain ⟨inside, rfl⟩ := List.getElem?_eq_some_iff.mp placed
  refine ⟨xs.take i, xs.drop (i + 1), ?_, List.length_take_of_le (Nat.le_of_lt inside)⟩
  rw [← List.drop_eq_getElem_cons inside, List.take_append_drop]

theorem isUnique_iff_isAlone {i : Nat} {m : Method String} (placed : methods[i]? = some m) :
    isUnique methods m = true ↔ IsAlone methods i m := by
  obtain ⟨before, after, rfl, rfl⟩ := exists_split_of_getElem? placed
  have counted : isUnique (before ++ m :: after) m = true ↔
      (∀ other ∈ before, other.identifier ≠ m.identifier) ∧
        ∀ other ∈ after, other.identifier ≠ m.identifier := by
    have sum : isUnique (before ++ m :: after) m = true ↔
        (before.filter (·.identifier == m.identifier)).length +
          ((after.filter (·.identifier == m.identifier)).length + 1) = 1 := by
      simp [isUnique]
    rw [sum, ← Nat.add_assoc, Nat.add_eq_right, Nat.add_eq_zero_iff]
    simp only [List.length_eq_zero_iff, List.filter_eq_nil_iff, beq_iff_eq, ne_eq]
  rw [counted]
  constructor
  · rintro ⟨earlier, later⟩ j other placed same
    rcases Nat.lt_trichotomy j before.length with below | rfl | above
    · rw [List.getElem?_append_left below] at placed
      exact absurd same (earlier other (List.mem_of_getElem? placed))
    · rfl
    · rw [List.getElem?_append_right (Nat.le_of_lt above), ← Nat.sub_add_cancel (Nat.sub_pos_of_lt above),
        List.getElem?_cons_succ] at placed
      exact absurd same (later other (List.mem_of_getElem? placed))
  · intro alone
    constructor
    · intro other member same
      obtain ⟨j, inside, rfl⟩ := List.getElem_of_mem member
      have here := alone j before[j]
        (by rw [List.getElem?_append_left inside, List.getElem?_eq_getElem]) same
      omega
    · intro other member same
      obtain ⟨j, inside, rfl⟩ := List.getElem_of_mem member
      have here := alone (before.length + (j + 1)) after[j] (by simp [inside]) same
      omega

theorem assign_append (used : List String) (before rest : List (Method String))
    (reserved : ∀ m ∈ before, isUnique methods m = true → m.identifier ∈ used) :
    ∃ now, assign methods used (before ++ rest) =
        assign methods used before ++ assign methods now rest ∧
      ∀ name, name ∈ now ↔ name ∈ used ∨ name ∈ assign methods used before := by
  induction before generalizing used with
  | nil => exact ⟨used, rfl, by simp [assign]⟩
  | cons m before ih =>
    have later : ∀ other ∈ before, isUnique methods other = true → other.identifier ∈ used :=
      fun other member => reserved other (List.mem_cons_of_mem _ member)
    rw [List.cons_append, assign, assign]
    dsimp only
    split
    next unique =>
      obtain ⟨now, given, inUse⟩ := ih used later
      refine ⟨now, by rw [given, List.cons_append], fun name => ?_⟩
      have own := reserved m List.mem_cons_self unique
      rw [inUse, List.mem_cons]
      constructor
      · exact Or.imp_right Or.inr
      · rintro (old | rfl | new)
        · exact .inl old
        · exact .inl own
        · exact .inr new
    next =>
      obtain ⟨now, given, inUse⟩ := ih (used ++ [fresh used m.mangled])
        fun other member unique => List.mem_append_left _ (later other member unique)
      refine ⟨now, by rw [given, List.cons_append], fun name => ?_⟩
      rw [inUse, List.mem_append, List.mem_singleton, List.mem_cons, or_assoc]

theorem mem_reserved {name : String} :
    name ∈ (methods.filter (isUnique methods)).map (·.identifier) ↔
      ∃ i m, methods[i]? = some m ∧ IsAlone methods i m ∧ m.identifier = name := by
  rw [List.mem_map]
  constructor
  · rintro ⟨m, member, named⟩
    obtain ⟨member, unique⟩ := List.mem_filter.mp member
    obtain ⟨i, placed⟩ := List.mem_iff_getElem?.mp member
    exact ⟨i, m, placed, (isUnique_iff_isAlone placed).mp unique, named⟩
  · rintro ⟨i, m, placed, alone, named⟩
    have unique := (isUnique_iff_isAlone placed).mpr alone
    exact ⟨m, List.mem_filter.mpr ⟨List.mem_of_getElem? placed, unique⟩, named⟩

theorem assign_cons (methods : List (Method String)) (used : List String) (m : Method String)
    (rest : List (Method String)) :
    ∃ next, assign methods used (m :: rest) =
      (if isUnique methods m then m.identifier else fresh used m.mangled) ::
        assign methods next rest := by
  rw [assign]
  split
  · exact ⟨used, rfl⟩
  · exact ⟨used ++ [fresh used m.mangled], rfl⟩

theorem exists_names_split {i : Nat} {m : Method String} (placed : methods[i]? = some m) :
    ∃ now later, names methods = (names methods).take i ++
        (if isUnique methods m then m.identifier else fresh now m.mangled) :: later ∧
      ∀ name, name ∈ now ↔ IsTaken methods ((names methods).take i) name := by
  obtain ⟨before, after, split, rfl⟩ := exists_split_of_getElem? placed
  have reserved : ∀ other ∈ before, isUnique methods other = true →
      other.identifier ∈ (methods.filter (isUnique methods)).map (·.identifier) := by
    intro other member unique
    have listed : other ∈ methods := split ▸ List.mem_append_left _ member
    exact List.mem_map_of_mem (List.mem_filter.mpr ⟨listed, unique⟩)
  obtain ⟨now, given, inUse⟩ := assign_append _ before (m :: after) reserved
  obtain ⟨next, own⟩ := assign_cons methods now m after
  rw [← split, own] at given
  change names methods = _ at given
  have earlier := congrArg (List.take before.length) given
  rw [List.take_left' (length_assign _ _ _)] at earlier
  refine ⟨now, assign methods next after, ?_, fun name => ?_⟩
  · rw [earlier]
    exact given
  · rw [inUse, mem_reserved, IsTaken, earlier]

/-- Methods get distinct accessors, one each and in order: its identifier a method that alone has
it, and any other one the first of its mangled name and the numbered forms of it that is neither
such an identifier nor the accessor of an earlier method. -/
theorem names_tellApart (methods : List (Method String)) :
    (names methods).length = methods.length ∧ (names methods).Nodup ∧
      ∀ i m, methods[i]? = some m → ∃ accessor, (names methods)[i]? = some accessor ∧
        (IsAlone methods i m → accessor = m.identifier) ∧
        (¬ IsAlone methods i m →
          FirstFree (IsTaken methods ((names methods).take i)) m.mangled accessor) := by
  refine ⟨length_names methods, nodup_names methods, fun i m placed => ?_⟩
  obtain ⟨now, later, given, inUse⟩ := exists_names_split placed
  have inside : i < methods.length := (List.getElem?_eq_some_iff.mp placed).1
  have unique := isUnique_iff_isAlone placed
  refine ⟨if isUnique methods m then m.identifier else fresh now m.mangled, ?_, ?_, ?_⟩
  · have short : ((names methods).take i).length = i := by
      rw [List.length_take_of_le (by simpa using Nat.le_of_lt inside)]
    rw [given, List.getElem?_append_right (Nat.le_of_eq short), short, Nat.sub_self]
    rfl
  · intro alone
    rw [if_pos (unique.mpr alone)]
  · intro shared
    rw [if_neg (unique.not.mpr shared)]
    exact (firstFree_fresh now m.mangled).congr inUse

end Accessor

theorem forall₂_of_mapM {α β ε : Type} {f : α → Except ε β} {xs : List α} {ys : List β}
    (ran : xs.mapM f = .ok ys) : List.Forall₂ (fun x y => f x = .ok y) xs ys := by
  induction xs generalizing ys with
  | nil =>
    cases ran
    exact .nil
  | cons x rest ih =>
    rw [List.mapM_cons] at ran
    cases first : f x with
    | error fault =>
      rw [first] at ran
      cases ran
    | ok y =>
      rw [first] at ran
      cases others : rest.mapM f with
      | error fault =>
        rw [others] at ran
        cases ran
      | ok zs =>
        rw [others] at ran
        cases ran
        exact .cons first (ih others)

theorem Stub.exists_method?_accessor {s : Stub} {m : InstrumentedMethod} (member : m ∈ s.methods) :
    ∃ first ∈ s.methods, s.method? m.accessor = some first ∧ first.accessor = m.accessor := by
  have named : (s.methods.find? (·.accessor == m.accessor)).isSome :=
    List.find?_isSome.mpr ⟨m, member, beq_self_eq_true _⟩
  obtain ⟨first, found⟩ := Option.isSome_iff_exists.mp named
  exact ⟨first, List.mem_of_find?_eq_some found, by rw [method?, found, Option.some_or],
    by simpa using List.find?_some found⟩

namespace SymbolTable

variable {t : SymbolTable} {lead : Value} {d : Declaration String} {stub : Stub}

theorem forall₂_of_buildStub (made : t.buildStub lead d = .ok stub) :
    List.Forall₂ (fun (x : Inherited × String) m => t.instrument x.1 x.2 = .ok m)
      ((t.flatten d).methods.zip (Accessor.names ((t.flatten d).methods.map (·.2))))
      stub.methods := by
  unfold buildStub at made
  dsimp only at made
  split at made
  next => cases made
  next =>
    cases built : ((t.flatten d).methods.zip (Accessor.names ((t.flatten d).methods.map
        (·.2)))).mapM fun x => t.instrument x.1 x.2 with
    | error slip =>
      rw [built] at made
      cases made
    | ok methods =>
      rw [built] at made
      cases passed : (t.flatten d).passthrough.mapM passThrough with
      | error slip =>
        rw [passed] at made
        cases made
      | ok passthrough =>
        rw [passed] at made
        cases led : lead.text? with
        | none =>
          rw [led] at made
          cases made
        | some lead =>
          rw [led] at made
          cases made
          exact forall₂_of_mapM built

/-- What instrumenting gives a method: its accessor, and how it returns by the table. -/
structure IsInstrumented (t : SymbolTable) (accessor : String) (m : InstrumentedMethod) : Prop where
  accessor : m.accessor = accessor
  declared : m.method.returnType = some m.returnType
  returns : t.returnKind m.declaring m.returnType = (m.returnKind, m.nested)

theorem isInstrumented_of_instrument {inherited : Inherited} {accessor : String}
    {m : InstrumentedMethod} (made : t.instrument inherited accessor = .ok m) :
    t.IsInstrumented accessor m := by
  unfold instrument at made
  dsimp only at made
  split at made
  next => cases made
  next declared =>
    split at made
    next => cases made
    next =>
      cases made
      exact ⟨rfl, declared, rfl⟩

theorem forall₂_isInstrumented (made : t.buildStub lead d = .ok stub) :
    List.Forall₂ t.IsInstrumented (Accessor.names ((t.flatten d).methods.map (·.2)))
      stub.methods := by
  have matching : (Accessor.names ((t.flatten d).methods.map (·.2))).length =
      (t.flatten d).methods.length := by
    simp
  have each := (forall₂_of_buildStub made).imp fun x m => isInstrumented_of_instrument
  have named := (List.forall₂_map_left_iff (f := Prod.snd)).mpr each
  rwa [List.map_snd_zip (Nat.le_of_eq matching)] at named

theorem map_accessor_methods (made : t.buildStub lead d = .ok stub) :
    stub.methods.map (·.accessor) = Accessor.names ((t.flatten d).methods.map (·.2)) := by
  rw [eq_comm, ← List.forall₂_eq_eq_eq, List.forall₂_map_right_iff]
  exact (forall₂_isInstrumented made).imp fun _ _ made => made.accessor.symm

theorem nodup_accessors (made : t.buildStub lead d = .ok stub) :
    (stub.methods.map (·.accessor)).Nodup := by
  rw [map_accessor_methods made]
  exact Accessor.nodup_names _

theorem method?_accessor (made : t.buildStub lead d = .ok stub) {m : InstrumentedMethod}
    (member : m ∈ stub.methods) : stub.method? m.accessor = some m := by
  obtain ⟨first, listed, found, same⟩ := Stub.exists_method?_accessor member
  rw [found, List.inj_on_of_nodup_map (nodup_accessors made) listed member same]

theorem returnKind_cases (t : SymbolTable) (declaring : String) (type : SemanticType) :
    (t.returnKind declaring type).1.returnsInterface =
      (t.returnKind declaring type).2.isSome := by
  cases type with
  | primitive builtin isConst =>
    unfold returnKind
    dsimp only
    split <;> rfl
  | named => rfl
  | misnamed => rfl
  | pointer inner isConst | reference inner isConst =>
    cases inner with
    | named used isConst =>
      unfold returnKind
      dsimp only
      split <;> rfl
    | _ => rfl

theorem exists_isInstrumented (made : t.buildStub lead d = .ok stub) {m : InstrumentedMethod}
    (member : m ∈ stub.methods) : ∃ accessor, t.IsInstrumented accessor m := by
  have each : List.Forall₂ (fun m (_ : String) => (∃ accessor, t.IsInstrumented accessor m) ∧ True)
      stub.methods _ :=
    (forall₂_isInstrumented made).flip.imp fun _ accessor made => ⟨⟨accessor, made⟩, trivial⟩
  exact ((List.forall₂_and_left _ _).mp each).1 m member

theorem nested_of_returnKind (made : t.buildStub lead d = .ok stub) {m : InstrumentedMethod}
    (member : m ∈ stub.methods) :
    m.returnKind.returnsInterface = m.nested.isSome ∧
      ∀ interface, m.nested = some interface → t.IsFullInterface interface := by
  obtain ⟨_, instrumented⟩ := exists_isInstrumented made member
  have returns := instrumented.returns
  constructor
  · have both := t.returnKind_cases m.declaring m.returnType
    rwa [returns] at both
  · intro interface handed
    have same : (t.returnKind m.declaring m.returnType).2 = some interface := by
      rw [returns]
      exact handed
    exact isFullInterface_of_returnKind same

theorem isSpelled_returnType (arena : t.IsArena) (spelled : t.IsSpelled)
    (declared : d ∈ t.declarations) {lead : String} (made : t.buildStub (.text lead) d = .ok stub)
    {m : InstrumentedMethod} (member : m ∈ stub.methods) : m.returnType.isSpelled = true := by
  have double := isDouble_of_buildStub arena spelled declared made
  have flat : (m.declaring, m.method) ∈ (t.flatten d).methods := by
    rw [← double.methods]
    exact List.mem_map_of_mem member
  have found := (List.mem_filter.mp ((firstBySignature_sublist _ _).subset flat)).1
  obtain ⟨b, visited, _, own, _⟩ := mem_collected.mp found
  have known := declared_of_inherits declared ((arena.mem_lineage declared).mp visited)
  have fit := (spelled b known m.method own).2
  obtain ⟨_, instrumented⟩ := exists_isInstrumented made member
  rwa [instrumented.declared] at fit

end SymbolTable
end Understudy
