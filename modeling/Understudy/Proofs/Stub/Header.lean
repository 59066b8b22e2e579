import Understudy.Proofs.Ownership.EmbeddingCycle
import Understudy.Proofs.Stub.Handout
import Understudy.Proofs.Stub.Memo
import Understudy.Stub.View

/-! Headers that can be compiled as they stand.

Main statement: where doubles are generated and rendered without fault, a header defines every class
that it names for a double handed out, and what an interface embeds has its double before it. Nothing
is asked of the names in the table: that no fault occurs is enough for the worklist to run dry.
-/

set_option autoImplicit false

open Relation

namespace Understudy

open Understudy.Cpp

namespace Generator

variable {t : SymbolTable} {lead name : String} {names worklist : List String}
  {g after : Generator}

/-! ## Generation without fault -/

theorem turns_of_work_eq_none (arena : g.table.IsArena) {fuel : Nat}
    (ran : work fuel g worklist = (after, none)) (enough : g.table.unseen g.memo.keys < fuel) :
    ReflTransGen Turn (g, worklist) (after, []) := by
  induction fuel generalizing g worklist with
  | zero => omega
  | succ fuel ih =>
    unfold work at ran
    have skipped := passes g worklist
    split at ran
    next done =>
      rw [done] at skipped
      cases ran
      exact skipped
    next name rest left =>
      rw [left] at skipped
      have new : g.memo.has name = false := by
        have first := List.head?_dropWhile_not (fun name => g.memo.has name) worklist
        simpa [left] using first
      split at ran
      next => cases ran
      next d found =>
        dsimp only at ran
        split at ran
        next => cases ran
        next stub built =>
          obtain ⟨_, rfl⟩ := arena.get?_eq_some.mp found
          -- Each turn keeps a declared name that was not kept, so the fuel never runs out first.
          have less := unseen_set_lt found new stub
          have fewer : g.table.unseen (g.memo.set d.name stub).keys < fuel := by omega
          refine skipped.trans (.head (.keep new found built) (ih ?_ ran fewer))
          exact ⟨arena.ids, arena.sound⟩

theorem Owes.of_generate (arena : t.IsArena) (owes : Owes t lead names g []) {stub : Stub}
    (made : g.generate name = (after, .ok stub)) :
    Owes t lead (names ++ [name]) after [] ∧ g.Grown after := by
  unfold generate at made
  rw [owes.interface_eq] at made
  split at made
  next => cases made
  next d stands =>
    split at made
    next => cases made
    next between worked =>
      have enough := Nat.lt_succ_of_le (g.table.unseen_le_length g.memo.keys)
      have run := turns_of_work_eq_none (owes.isArena arena) worked enough
      split at made
      next =>
        cases made
        exact owes_of_turns arena run (owes.ask stands)
      next => cases made

theorem Owes.of_generateEach (arena : t.IsArena) (owes : Owes t lead names g [])
    {more : List String} (made : g.generateEach more = (after, none)) :
    Owes t lead (names ++ more) after [] ∧ g.Grown after := by
  induction more generalizing g names with
  | nil =>
    cases made
    rw [List.append_nil]
    exact ⟨owes, .refl _⟩
  | cons name rest ih =>
    unfold Generator.generateEach at made
    split at made
    next => cases made
    next between stub generated =>
      obtain ⟨settled, grown⟩ := owes.of_generate arena generated
      obtain ⟨later, others⟩ := ih settled made
      rw [List.append_assoc, List.singleton_append] at later
      exact ⟨later, grown.trans others⟩

theorem generate_ne_ok (unled : g.lead.text? = none) (none : g.memo = []) {stub : Stub} :
    g.generate name ≠ (after, .ok stub) := by
  intro made
  unfold generate at made
  split at made
  next => cases made
  next d stands =>
    -- The loop ends at the first name already, whether it has a place in the table or not.
    have stuck : ∃ between slip,
        work (g.table.declarations.length + 1) g [d.name] = (between, some slip) := by
      unfold work
      have new : ([d.name].dropWhile fun name => g.memo.has name) = [d.name] := by
        simp [none, Assoc.has]
      rw [new]
      dsimp only
      split
      next => exact ⟨_, _, rfl⟩
      next b _ =>
        split
        next => exact ⟨_, _, rfl⟩
        next stub built =>
          have led := (SymbolTable.isNamed_of_buildStub built).lead
          rw [unled] at led
          cases led
    obtain ⟨between, slip, stuck⟩ := stuck
    rw [stuck] at made
    cases made

theorem exists_owes_of_generateEach (arena : t.IsArena) {classification : Option Classification}
    {lead : Value}
    (made : generateEach ⟨t, classification, lead, []⟩ names = (after, none)) :
    after.classification = classification ∧
      (after.memo = [] ∨ ∃ text, Owes t text names after []) := by
  cases led : lead.text? with
  | some text =>
    have same : lead = .text text := by
      cases lead <;> simp_all [Value.text?]
    rw [same] at made
    obtain ⟨owes, grown⟩ := (owes_fresh t classification text).of_generateEach arena made
    exact ⟨grown.classification, .inr ⟨text, owes⟩⟩
  | none =>
    cases names with
    | nil =>
      cases made
      exact ⟨rfl, .inl rfl⟩
    | cons name rest =>
      unfold Generator.generateEach at made
      split at made
      next => cases made
      next generated => exact absurd generated (generate_ne_ok led rfl)

theorem exists_generateEach_of_generateAsked {asked workers : Value}
    (made : g.generateAsked asked workers = (after, none)) :
    ∃ names, g.generateEach names = (after, none) := by
  unfold generateAsked at made
  split at made
  next => cases made
  next given _ =>
    unfold generateNamed at made
    dsimp only at made
    split at made
    next => cases made
    next last each =>
      cases (Prod.mk.inj made).1
      exact ⟨_, each⟩

/-! ## The list of doubles -/

theorem Owes.isNamed (arena : t.IsArena) (owes : Owes t lead names g []) {s : Stub}
    (known : g.memo.get? name = some s) :
    ∃ d ∈ t.declarations, d.name = name ∧ SymbolTable.IsNamed (.text lead) d s := by
  obtain ⟨d, found, built⟩ := owes.entries name s known
  obtain ⟨declared, named⟩ := arena.get?_eq_some.mp found
  exact ⟨d, declared, named, SymbolTable.isNamed_of_buildStub built⟩

theorem Owes.interface_eq_name (arena : t.IsArena) (owes : Owes t lead names g []) {s : Stub}
    (known : g.memo.get? name = some s) : s.interface = name := by
  obtain ⟨d, _, rfl, named⟩ := owes.isNamed arena known
  exact named.interface

theorem Owes.map_interface_stubs (arena : t.IsArena) (owes : Owes t lead names g []) :
    g.stubs.map (·.interface) = g.interfaceOrder :=
  Generator.map_interface_stubs fun _ _ known => owes.interface_eq_name arena known

theorem Owes.areKindred (arena : t.IsArena) (owes : Owes t lead names g []) : AreKindred g.stubs := by
  have named {s : Stub} (listed : s ∈ g.stubs) : ∃ d, t.buildStub (.text lead) d = .ok s := by
    obtain ⟨name, known⟩ := mem_stubs.mp listed
    obtain ⟨d, _, built⟩ := owes.entries name s known
    exact ⟨d, built⟩
  constructor
  case lead =>
    refine ⟨lead, fun s listed => ?_⟩
    obtain ⟨d, built⟩ := named listed
    exact (Option.some.inj (SymbolTable.isNamed_of_buildStub built).lead).symm
  case suffix =>
    intro s listed
    obtain ⟨d, built⟩ := named listed
    have own := SymbolTable.isNamed_of_buildStub built
    rw [own.interface]
    exact (String.append_right_inj s.lead).mp own.name
  case interfaces =>
    rw [owes.map_interface_stubs arena]
    exact g.perm_interfaceOrder.nodup_iff.mpr owes.distinct
  case accessors =>
    intro s listed
    obtain ⟨d, built⟩ := named listed
    exact SymbolTable.nodup_accessors built

theorem Owes.isUnbroken_accessor (owes : Owes t lead names g []) {s : Stub} (listed : s ∈ g.stubs)
    {m : InstrumentedMethod} (member : m ∈ s.nesting) : IsUnbroken m.accessor := by
  obtain ⟨name, known⟩ := mem_stubs.mp listed
  obtain ⟨d, _, built⟩ := owes.entries name s known
  exact SymbolTable.isUnbroken_accessor built (List.mem_of_mem_filter member)

theorem Owes.exists_nested (arena : t.IsArena) (owes : Owes t lead names g []) {s : Stub}
    (listed : s ∈ g.stubs) {m : InstrumentedMethod} (member : m ∈ s.nesting) :
    ∃ other ∈ g.stubs, m.nested = some other.interface ∧ nestedClass s m = other.name := by
  obtain ⟨name, known⟩ := mem_stubs.mp listed
  obtain ⟨d, _, rfl, own⟩ := owes.isNamed arena known
  obtain ⟨mine, some⟩ := List.mem_filter.mp member
  obtain ⟨interface, handed⟩ := Option.isSome_iff_exists.mp some
  have due : interface ∈ s.nested := by
    rw [own.nested, List.mem_eraseDups]
    exact List.mem_filterMap.mpr ⟨m, mine, handed⟩
  have kept := (owes.nested d.name s known interface due).resolve_right (by simp)
  obtain ⟨other, found⟩ := Option.isSome_iff_exists.mp kept
  obtain ⟨e, _, rfl, others⟩ := owes.isNamed arena found
  -- One generator leads all names with the same words, so both spell the class alike.
  have led : s.lead = other.lead := Option.some.inj (own.lead.symm.trans others.lead)
  rw [← others.interface] at handed
  refine ⟨other, mem_stubs.mpr ⟨_, found⟩, handed, ?_⟩
  rw [nestedClass, handed, Option.getD_some, others.interface, others.name, Stub.nestedName,
    Stub.nestedName, led]

theorem Owes.precedes (arena : t.IsArena) (owes : Owes t lead names g []) {c : Classification}
    (given : g.classification = some c) (classified : t.classify.2 = .ok c) {a b : Stub}
    (first : a ∈ g.stubs) (second : b ∈ g.stubs)
    (embeds : TransGen t.Embeds a.interface b.interface) :
    Precedes g.interfaceOrder b.interface a.interface := by
  obtain ⟨sound, edges⟩ := SymbolTable.dependencyOrder_of_classify arena classified
  have distinct := sound.perm.nodup_iff.mpr arena.nodup_names
  have kept {s : Stub} (listed : s ∈ g.stubs) : g.memo.has s.interface = true := by
    obtain ⟨name, known⟩ := mem_stubs.mp listed
    rw [owes.interface_eq_name arena known, Assoc.has, known]
    rfl
  have ordered := interfaceOrder_eq_filter arena owes.table owes.distinct
    (fun name member => by
      obtain ⟨s, known⟩ := Option.isSome_iff_exists.mp (Assoc.mem_keys.mp member)
      obtain ⟨d, declared, rfl, _⟩ := owes.isNamed arena known
      exact SymbolTable.mem_names declared)
    (fun c' given' => by
      rw [given] at given'
      cases given'
      exact classified)
  rw [ordered, given]
  exact (SymbolTable.precedes_of_embeds sound distinct edges embeds).filter (kept second)
    (kept first)

structure BelongTogether (t : SymbolTable) (classification : Option Classification)
    (stubs : List Stub) : Prop where
  kindred : AreKindred stubs
  unbroken : ∀ s ∈ stubs, ∀ m ∈ s.nesting, IsUnbroken m.accessor
  answered : ∀ s ∈ stubs, ∀ m ∈ s.nesting, ∃ other ∈ stubs,
    m.nested = some other.interface ∧ nestedClass s m = other.name
  ordered : classification.isSome → ∀ a ∈ stubs, ∀ b ∈ stubs,
    TransGen t.Embeds a.interface b.interface →
      Precedes (stubs.map (·.interface)) b.interface a.interface

theorem belongTogether_of_generateEach (arena : t.IsArena) {classification : Option Classification}
    (classified : ∀ c, classification = some c → t.classify.2 = .ok c) {lead : Value}
    (made : generateEach ⟨t, classification, lead, []⟩ names = (after, none)) :
    BelongTogether t classification after.stubs := by
  obtain ⟨kept, none | ⟨text, owes⟩⟩ := exists_owes_of_generateEach arena made
  · have nothing : after.stubs = [] := by
      refine List.eq_nil_iff_forall_not_mem.mpr fun s listed => ?_
      obtain ⟨name, known⟩ := mem_stubs.mp listed
      rw [none] at known
      cases known
    rw [nothing]
    exact ⟨⟨⟨"", by simp⟩, by simp, by simp, by simp⟩, by simp, by simp, by simp⟩
  · refine ⟨owes.areKindred arena, fun s listed m => owes.isUnbroken_accessor listed,
      fun s listed m => owes.exists_nested arena listed, ?ordered⟩
    intro given a first b second embeds
    obtain ⟨c, given⟩ := Option.isSome_iff_exists.mp given
    rw [owes.map_interface_stubs arena]
    exact owes.precedes arena (kept.trans given) (classified c given) first second embeds

end Generator

/-- A header that can be compiled as it stands, line by line. -/
structure StubView.IsClosed (t : SymbolTable) (classification : Option Classification)
    (settings : Value) (v : StubView) (lines : List String) : Prop where
  source : v.source = "\n".intercalate lines ++ "\n"
  /-- What stands around the doubles comes from the settings, the reports and the headers. -/
  made : ∃ entries guard headers includes, sectionEntries settings = .ok entries ∧
    guardOf entries = .ok guard ∧
      headersOf (some v.generator.table) entries v.stubs = .ok headers ∧
        includeLines headers = .ok includes ∧
          lines = headerLines (some v.generator.table) v.generator.table.diagnostics guard includes
            v.stubs
  /-- No interface has two doubles. -/
  once : (v.stubs.map (·.interface)).Nodup
  /-- The lines define the classes of the doubles, and hand out doubles of these classes only. -/
  closed : AreClosed lines v.stubs
  /-- What a method hands out is the double of the interface that it returns. -/
  answered : ∀ s ∈ v.stubs, ∀ m ∈ s.nesting, ∃ other ∈ v.stubs,
    m.nested = some other.interface ∧ nestedClass s m = other.name
  /-- What is embedded, also through interfaces without doubles, is defined first. -/
  ordered : classification.isSome → ∀ a ∈ v.stubs, ∀ b ∈ v.stubs,
    TransGen t.Embeds a.interface b.interface →
      ∃ before between after,
        definitionsIn lines = before ++ b.heading :: between ++ a.heading :: after

theorem exists_split_of_precedes {stubs : List Stub} {a b : Stub}
    (distinct : (stubs.map (·.interface)).Nodup) (first : a ∈ stubs) (second : b ∈ stubs)
    (h : Precedes (stubs.map (·.interface)) b.interface a.interface) :
    ∃ before between after, stubs = before ++ b :: between ++ a :: after := by
  obtain ⟨before, after, split, early⟩ := h
  obtain ⟨front, rest, rfl, rfl, later⟩ := List.map_eq_append_iff.mp split
  obtain ⟨a', back, rfl, same, rfl⟩ := List.map_eq_cons_iff.mp later
  obtain ⟨b', early, same'⟩ := List.mem_map.mp early
  cases List.inj_on_of_nodup_map distinct (by simp) first same
  cases List.inj_on_of_nodup_map distinct (List.mem_append_left _ early) second same'
  obtain ⟨before, between, rfl⟩ := List.append_of_mem early
  exact ⟨before, between, back, rfl⟩

theorem exists_lines_of_renderHeader {symbols : Option SymbolTable} {diagnostics : Diagnostics}
    {settings : Entries} {stubs : List Stub} {source : String}
    (made : renderHeader symbols diagnostics settings stubs = .ok source) :
    ∃ guard headers includes, guardOf settings = .ok guard ∧
      headersOf symbols settings stubs = .ok headers ∧ includeLines headers = .ok includes ∧
        source = "\n".intercalate (headerLines symbols diagnostics guard includes stubs) ++ "\n" := by
  unfold renderHeader at made
  obtain ⟨guard, guarded, made⟩ := exists_of_bind_eq_ok made
  obtain ⟨headers, headed, made⟩ := exists_of_bind_eq_ok made
  obtain ⟨includes, included, made⟩ := exists_of_bind_eq_ok made
  split at made
  next => cases made
  next =>
    cases made
    exact ⟨guard, headers, includes, guarded, headed, included, rfl⟩

namespace SymbolTable

/-- Whatever is asked for and however it is set: where doubles of a merged table are generated and
rendered without fault, the header is closed and in order. -/
theorem isClosed_of_stubView {t : SymbolTable} (built : t.Built)
    {classification : Option Classification}
    (classified : ∀ c, classification = some c → t.classify.2 = .ok c) {asked settings : Value}
    {g : Generator} {view : StubView}
    (made : t.stubView classification asked settings = (g, .ok view)) :
    ∃ lines, view.IsClosed t classification settings lines := by
  have arena := built.isArena
  unfold stubView at made
  dsimp only at made
  split at made
  next => cases made
  next entries sections =>
    split at made
    next => cases made
    next after generated =>
      split at made
      next => cases made
      next source rendered =>
        cases made
        obtain ⟨guard, headers, includes, guarded, headed, included, rfl⟩ :=
          exists_lines_of_renderHeader rendered
        -- What is kept belongs together, since generation began with nothing.
        obtain ⟨names, each⟩ := Generator.exists_generateEach_of_generateAsked generated
        have stubs := Generator.belongTogether_of_generateEach arena classified each
        have closed := areClosed_headerLines (some g.table) g.table.diagnostics guard included
          stubs.kindred stubs.unbroken fun s listed m member => by
            obtain ⟨other, there, _, named⟩ := stubs.answered s listed m member
            exact ⟨other, there, named⟩
        refine ⟨headerLines (some g.table) g.table.diagnostics guard includes g.stubs, rfl,
          ⟨entries, guard, headers, includes, sections, guarded, headed, included, rfl⟩,
          stubs.kindred.interfaces, closed, stubs.answered, ?ordered⟩
        intro given a first b second embeds
        obtain ⟨before, between, after, split⟩ := exists_split_of_precedes stubs.kindred.interfaces
          first second (stubs.ordered given a first b second embeds)
        refine ⟨before.map (·.heading), between.map (·.heading), after.map (·.heading), ?_⟩
        rw [closed.defined, split]
        simp

theorem stubView_of_renderHeader {t : SymbolTable} {classification : Option Classification}
    {asked : Value} {g : Generator} {source : String}
    (generated : Generator.generateAsked ⟨t, classification, .text "Stub", []⟩ asked (.int 1) =
      (g, none))
    (rendered : renderHeader (some g.table) g.table.diagnostics [] g.stubs = .ok source) :
    t.stubView classification asked .null = (g, .ok ⟨g, g.stubs, source⟩) := by
  unfold stubView
  dsimp only [sectionEntries]
  simp only [Assoc.get?_nil, Option.getD_none, generated, rendered]

/-- An interface that hands out what inherits from it, through an interface in between. -/
def descent : SymbolTable :=
  let declaring (name : String) (bases : List String) (methods : List (Method String)) :
      Declaration String :=
    { name, kind := .interface, bases, methods, fields := [], isFull := true, unit := .null }
  let child : Method String :=
    { name := "child", parameters := []
      returnType := some (.reference (.named "ns::Child" false) false), isPure := true
      isConst := false, visibility := .public }
  (merge
    [{ name := .null
       declarations :=
         [declaring "ns::Child" ["ns::Middle"] [],
          declaring "ns::Middle" ["ns::Parent"] [],
          declaring "ns::Parent" [] [child]]
       bodies := [], header := .null }]).1

def descended : Generator :=
  (Generator.generateAsked ⟨descent, descent.classify.2.toOption, .text "Stub", []⟩
    (.list [.text "ns::Parent"]) (.int 1)).1

theorem stubs_descended :
    descended.stubs = ["ns::Parent", "ns::Child"].filterMap descended.memo.get? := by
  have same : descended.classification = descent.classify.2.toOption := by decide +kernel
  -- Sorting does not compute here, and what it comes to does.
  have ordered : descended.interfaceOrder = ["ns::Parent", "ns::Child"] := by
    rw [Generator.interfaceOrder_eq_filter (t := descent) (built_merge _).isArena
      ⟨descended.table.diagnostics, by decide +kernel⟩ (by decide +kernel) (by decide +kernel)
      (same ▸ fun _ => eq_ok_of_toOption)]
    decide +kernel
  exact congrArg (List.filterMap descended.memo.get?) ordered

/-- Asked for the parent alone, the header has the child as well, and after it. -/
theorem isClosed_descent :
    ∃ view lines, descent.stubView descent.classify.2.toOption (.list [.text "ns::Parent"]) .null =
        (descended, .ok view) ∧
      definitionsIn lines =
          ["Stubns_Parent : public ns::Parent", "Stubns_Child : public ns::Child"] ∧
        keepersIn lines = [[("child", "Stubns_Child")], [("child", "Stubns_Child")]] ∧
          TransGen descent.Embeds "ns::Child" "ns::Parent" ∧
            view.IsClosed descent descent.classify.2.toOption .null lines := by
  have step {a b : String} (direct : ∃ e ∈ descent.ownershipEdges, e.isOwned = true ∧
      e.site.isHard = true ∧ e.source = a ∧ e.target = b) : TransGen descent.Embeds a b :=
    .single direct
  have embeds : TransGen descent.Embeds "ns::Child" "ns::Parent" :=
    (step (b := "ns::Middle") (by decide +kernel)).trans (step (by decide +kernel))
  have generated : Generator.generateAsked
      ⟨descent, descent.classify.2.toOption, .text "Stub", []⟩ (.list [.text "ns::Parent"])
        (.int 1) = (descended, none) :=
    Prod.ext rfl (by decide +kernel)
  have fit : (renderHeader (some descended.table) descended.table.diagnostics []
      descended.stubs).isOk = true := by
    rw [stubs_descended]
    decide +kernel
  cases rendered : renderHeader (some descended.table) descended.table.diagnostics []
      descended.stubs with
  | error slip =>
    rw [rendered] at fit
    cases fit
  | ok source =>
    have made := stubView_of_renderHeader generated rendered
    obtain ⟨lines, closed⟩ :=
      isClosed_of_stubView (built_merge _) (fun _ => eq_ok_of_toOption) made
    refine ⟨_, lines, made, ?_, ?_, embeds, closed⟩
    · rw [closed.closed.defined]
      dsimp only
      rw [stubs_descended]
      decide +kernel
    · rw [closed.closed.keepers]
      dsimp only
      rw [stubs_descended]
      decide +kernel

end SymbolTable
end Understudy
