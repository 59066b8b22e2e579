import Understudy.Proofs.Double.Isolation
import Understudy.Proofs.Double.Lookup
import Understudy.Proofs.Double.Creation
import Understudy.Proofs.Stub.Change

/-! What holds on every bench that can be reached.

A double keeps the slots of its stub with the answers they started with, and its stub is that of its
interface. Doubles that are handed out form a family: each has one double and one method that it comes
from, and never loses them.
-/

set_option autoImplicit false

open Relation (ReflTransGen)

namespace Understudy

open Understudy.Cpp

/-! ## Doubles -/

namespace Double

variable {d after : Double} {stub : Stub} {key : String} {space : Space} {m : InstrumentedMethod}

def initials (d : Double) : Assoc Datum := d.statics.map fun e => (e.1, e.2.initial)

/-- A double has the slots of its stub, and its static slots go back to what they were set up with. -/
structure IsSound (d : Double) : Prop where
  slotted : IsSlotted d.stub d
  initials : d.initials = (fresh d.stub).initials

theorem isSound_fresh (stub : Stub) : (fresh stub).IsSound := ⟨isSlotted_fresh stub, rfl⟩

theorem initials_setStatic (d : Double) (key : String) (answer : Datum) :
    (d.setStatic key answer).initials = d.initials := by
  unfold setStatic
  split
  next slot found =>
    have same : d.initials.get? (d.stub.slotKey key) = some slot.initial := by
      have mapped := Assoc.get?_map d.statics (·.initial) (d.stub.slotKey key)
      rw [← static?, found] at mapped
      exact mapped
    have set_ := Assoc.map_set d.statics (·.initial) (d.stub.slotKey key)
      { slot with current := answer }
    exact set_.trans (Assoc.set_eq_self same)
  next => rfl

theorem Change.initials (change : d.Change after) : after.initials = d.initials := by
  cases change with
  | static key answer => exact d.initials_setStatic key answer
  | @reset space key _ =>
    cases space with
    | counter | callback => rfl
    | static =>
      unfold Double.reset
      dsimp only
      split
      · exact d.initials_setStatic _ _
      · rfl
  | resetSpace space =>
    cases space with
    | counter | callback => rfl
    | static => simp [Double.initials, Double.resetSpace]
  | counter | callback | beside => rfl

theorem Change.isSound (change : d.Change after) (sound : d.IsSound) :
    after.IsSound ∧ after.stub = d.stub := by
  have slotted := change.isSlotted sound.slotted
  refine ⟨⟨slotted.ofStub ▸ slotted, ?_⟩, slotted.ofStub⟩
  rw [change.initials, sound.initials, slotted.ofStub]

theorem isSound_of_changes (changes : ReflTransGen Change d after) (sound : d.IsSound) :
    after.IsSound ∧ after.stub = d.stub := by
  induction changes with
  | refl => exact ⟨sound, rfl⟩
  | tail _ change ih =>
    obtain ⟨between, same⟩ := ih
    obtain ⟨last, stub⟩ := change.isSound between
    exact ⟨last, stub.trans same⟩

theorem IsSlotted.slotKey_of_mem (slotted : IsSlotted stub d) (listed : key ∈ d.accessors space) :
    d.stub.slotKey key = key := by
  have own := slotted.accessors space ▸ listed
  obtain ⟨m, member, named⟩ : ∃ m ∈ stub.methods, m.accessor = key := by
    cases space with
    | counter | callback => exact List.mem_map.mp own
    | static =>
      obtain ⟨m, returning, named⟩ := List.mem_map.mp own
      exact ⟨m, (List.mem_filter.mp returning).1, named⟩
  rw [slotted.ofStub, ← named, Stub.slotKey_accessor member]

theorem IsSlotted.has_of_holds (slotted : IsSlotted stub d) (holds : d.Holds space key) :
    d.has space key = true := by
  rcases holds with there | listed
  · exact there
  · rw [has, slotted.slotKey_of_mem listed]
    exact List.contains_iff_mem.mpr listed

theorem IsSlotted.has_counter (slotted : IsSlotted stub d) (member : m ∈ stub.methods) :
    d.has .counter m.accessor = true := by
  refine slotted.has_of_holds (.inr ?_)
  rw [slotted.accessors .counter]
  exact List.mem_map_of_mem member

theorem IsSlotted.exists_static (slotted : IsSlotted stub d) (member : m ∈ stub.methods)
    (returning : m.isVoid = false) : ∃ answer, d.static? m.accessor = some answer := by
  have listed : m.accessor ∈ d.accessors .static := by
    rw [slotted.accessors .static]
    exact List.mem_map_of_mem (List.mem_filter.mpr ⟨member, by simp [returning]⟩)
  rw [static?, slotted.ofStub, Stub.slotKey_accessor member]
  exact Option.isSome_iff_exists.mp (Assoc.mem_keys.mp listed)

end Double

/-! ## Benches -/

namespace Bench

variable {b c : Bench} {number n : Nat} {d after : Double} {change : Double → Double}

/-- Where a double comes from that is there after a change. -/
inductive Becomes (b c : Bench) (n : Nat) (after : Double) : Prop where
  | changed {d : Double} :
      b.double? n = some d → ReflTransGen Double.Change d after → Becomes b c n after
  | born {name : String} {stub : Stub} :
      n = b.doubles.length → b.generator.generate name = (c.generator, .ok stub) →
        after = .fresh stub → Becomes b c n after

theorem double?_eq_update (doubles : c.doubles = b.doubles.modify number change) (n : Nat) :
    c.double? n = (b.update number change).double? n :=
  congrArg (·[n]?) doubles

theorem double?_of_modify (doubles : c.doubles = b.doubles.modify number change)
    (there : c.double? n = some after) :
    b.double? n = some after ∨ n = number ∧ ∃ d, b.double? n = some d ∧ after = change d := by
  rw [double?_eq_update doubles] at there
  rcases double?_update_eq_some.mp there with ⟨_, old⟩ | ⟨rfl, d, old, rfl⟩
  · exact .inl old
  · exact .inr ⟨rfl, d, old, rfl⟩

theorem becomes_of_modify (doubles : c.doubles = b.doubles.modify number change)
    (changes : ∀ d, b.double? number = some d → ReflTransGen Double.Change d (change d))
    (there : c.double? n = some after) : Becomes b c n after := by
  rcases double?_of_modify doubles there with old | ⟨rfl, d, old, rfl⟩
  · exact .changed old .refl
  · exact .changed old (changes d old)

theorem double?_of_append {stub : Stub} (doubles : c.doubles = b.doubles ++ [.fresh stub])
    (there : c.double? n = some after) :
    b.double? n = some after ∨ n = b.doubles.length ∧ after = .fresh stub := by
  rw [double?, doubles, List.getElem?_append] at there
  split at there
  next => exact .inl there
  next late =>
    rw [List.getElem?_singleton] at there
    split at there
    next first =>
      cases there
      exact .inr ⟨by omega, rfl⟩
    next => cases there

theorem doubles_accept (b : Bench) (number : Nat) (m : InstrumentedMethod) {args : List Datum}
    (arity : args.length = m.arity) :
    ∃ change, (b.accept number m args).1.doubles = b.doubles.modify number change ∧
      (change = counting m ∨ ∃ params, change = keeping m params ∘ counting m) := by
  rcases accept_cases b number m arity with ⟨heap, _, _, ran⟩ | ⟨heap, params, _, ran⟩
  · exact ⟨_, congrArg (·.1.doubles) ran, .inl rfl⟩
  · exact ⟨_, congrArg (·.1.doubles) ran, .inr ⟨params, rfl⟩⟩

theorem Shift.becomes (shift : Shift b c)
    (sound : ∀ n d, b.double? n = some d → d.IsSound) (there : c.double? n = some after) :
    Becomes b c n after := by
  cases shift with
  | beside | generate => exact .changed there .refl
  | create yields =>
    rcases double?_of_append rfl there with old | ⟨last, rfl⟩
    · exact .changed old .refl
    · exact .born last yields.generated rfl
  | @handOut number d _ _ m generator stub known _ _ _ yields =>
    have handed (d : Double) : ReflTransGen Double.Change d
        { d with nested := d.nested.set m.accessor b.doubles.length } :=
      .single (.beside (d.nested.set m.accessor b.doubles.length) d.marks)
    let between : Bench := { b with generator, doubles := b.doubles ++ [Double.fresh stub] }
    rcases double?_of_modify (b := between) rfl there with old | ⟨rfl, before, old, rfl⟩
    · rcases double?_of_append (c := between) rfl old with old | ⟨last, rfl⟩
      · exact .changed old .refl
      · exact .born last yields.generated rfl
    -- The double that hands out was there before, so it is not the new one.
    · rcases double?_of_append (c := between) rfl old with old | ⟨rfl, _⟩
      · exact .changed old (handed before)
      · exact absurd (List.getElem?_eq_some_iff.mp known).1 (Nat.lt_irrefl _)
  | mark number marks =>
    exact becomes_of_modify rfl (fun e _ => .single (.beside e.nested (marks e))) there
  | setStatic number key answer =>
    exact becomes_of_modify rfl (fun _ _ => .single (.static key answer)) there
  | setCallback callback known holds =>
    refine becomes_of_modify rfl (fun d old => ?_) there
    cases known.symm.trans old
    exact .single (.callback callback ((sound _ _ old).slotted.has_of_holds holds))
  | @accept number d m args known member arity =>
    have own (e : Double) (old : b.double? number = some e) : d = e :=
      Option.some.inj (known.symm.trans old)
    have counted : ReflTransGen Double.Change d (counting m d) :=
      .single (.counter _ ((sound _ d known).slotted.has_counter member))
    have kept (params : List Datum) : ReflTransGen Double.Change d (keeping m params (counting m d)) := by
      obtain ⟨next, same⟩ := Double.isSound_of_changes counted (sound _ d known)
      exact counted.tail (.counter _ (next.slotted.has_counter (same ▸ member)))
    obtain ⟨change, doubles, rfl | ⟨params, rfl⟩⟩ := b.doubles_accept number m arity
    · exact becomes_of_modify doubles (fun e old => own e old ▸ counted) there
    · exact becomes_of_modify doubles (fun e old => own e old ▸ kept params) there
  | @reset number d space key known holds =>
    have doubles : (b.reset number space key).doubles =
        b.doubles.modify number (·.reset space key) := by
      cases space <;> rfl
    refine becomes_of_modify doubles (fun e old => ?_) there
    cases known.symm.trans old
    exact .single (.reset ((sound _ d known).slotted.has_of_holds holds))
  | resetSpace number space =>
    have doubles : (b.resetSpace number space).doubles =
        b.doubles.modify number (·.resetSpace space) := by
      cases space <;> rfl
    exact becomes_of_modify doubles (fun d _ => .single (.resetSpace space)) there
  | resetAll number =>
    refine becomes_of_modify (c := b.resetAll number) rfl (fun d _ => ?_) there
    exact .tail (.tail (.single (.resetSpace .counter)) (.resetSpace .callback))
      (.resetSpace .static)

end Bench

/-! ## Stubs -/

namespace Generator

variable {g after : Generator} {t : SymbolTable} {lead : Value}

/-- All that a generator keeps is built from a table, whatever has been reported since. -/
structure IsOf (t : SymbolTable) (lead : Value) (g : Generator) : Prop where
  table : ∃ ds, g.table = { t with diagnostics := ds }
  led : g.lead = lead
  entries : ∀ name stub, g.memo.get? name = some stub →
    ∃ declared ∈ t.declarations, declared.name = name ∧ t.buildStub lead declared = .ok stub

theorem isOf_fresh (t : SymbolTable) (classification : Option Classification) (lead : Value) :
    IsOf t lead ⟨t, classification, lead, []⟩ :=
  ⟨⟨t.diagnostics, rfl⟩, rfl, by simp⟩

theorem Change.isOf (change : Change g after) (isOf : g.IsOf t lead) : after.IsOf t lead := by
  obtain ⟨ds, table⟩ := isOf.table
  cases change with
  | report => exact ⟨⟨_, by rw [reportFlat, table]⟩, isOf.led, isOf.entries⟩
  | @keep d stub declared built =>
    refine ⟨⟨ds, table⟩, isOf.led, fun name other known => ?_⟩
    rcases Assoc.get?_set_cases known with ⟨own, rfl⟩ | old
    · rw [table] at declared built
      rw [isOf.led, SymbolTable.buildStub_diagnose] at built
      exact ⟨d, declared, own.symm, built⟩
    · exact isOf.entries name other old

theorem Changes.isOf (changes : Changes g after) (isOf : g.IsOf t lead) : after.IsOf t lead := by
  induction changes with
  | refl => exact isOf
  | tail _ change ih => exact change.isOf ih

theorem exists_get?_memo {name : String} {stub : Stub}
    (generated : g.generate name = (after, .ok stub)) :
    ∃ d, g.table.interface name = .ok d ∧ after.memo.get? d.name = some stub := by
  cases stands : g.table.interface name with
  | error fault =>
    unfold generate at generated
    rw [stands] at generated
    cases generated
  | ok d => exact ⟨d, rfl, get?_memo_of_generate stands generated⟩

theorem IsOf.of_generate {name : String} {stub : Stub} (isOf : g.IsOf t lead)
    (generated : g.generate name = (after, .ok stub)) :
    ∃ declared ∈ t.declarations, t.buildStub lead declared = .ok stub := by
  obtain ⟨d, _, kept⟩ := exists_get?_memo generated
  have changes := g.changes_generate name
  rw [generated] at changes
  obtain ⟨declared, listed, _, built⟩ := (changes.isOf isOf).entries _ _ kept
  exact ⟨declared, listed, built⟩

theorem IsOf.interface_eq (isOf : g.IsOf t lead) (name : String) :
    g.table.interface name = t.interface name := by
  obtain ⟨ds, table⟩ := isOf.table
  rw [table]
  rfl

theorem IsOf.interface_eq_name (isOf : g.IsOf t lead) {name : String} {stub : Stub}
    (kept : g.memo.get? name = some stub) : stub.interface = name := by
  obtain ⟨declared, _, named, built⟩ := isOf.entries name stub kept
  exact (SymbolTable.isNamed_of_buildStub built).interface.trans named

theorem Change.keeps (arena : t.IsArena) (isOf : g.IsOf t lead) (change : Change g after)
    {name : String} {stub : Stub} (kept : g.memo.get? name = some stub) :
    after.memo.get? name = some stub := by
  cases change with
  | report => exact kept
  | @keep d other declared built =>
    by_cases own : name = d.name
    · obtain ⟨ds, table⟩ := isOf.table
      rw [table] at declared built
      rw [isOf.led, SymbolTable.buildStub_diagnose] at built
      obtain ⟨first, listed, named, built'⟩ := isOf.entries name stub kept
      have found := arena.get?_eq_some.mpr ⟨listed, named.trans own⟩
      cases found.symm.trans (arena.get?_eq_some.mpr ⟨declared, rfl⟩)
      cases built'.symm.trans built
      rw [own]
      exact Assoc.get?_set_self _ _ _
    · exact (Assoc.get?_set_ne _ _ own).trans kept

theorem Changes.keeps (arena : t.IsArena) (isOf : g.IsOf t lead) (changes : Changes g after)
    {name : String} {stub : Stub} (kept : g.memo.get? name = some stub) :
    after.memo.get? name = some stub := by
  induction changes with
  | refl => exact kept
  | tail before change ih => exact change.keeps arena (Changes.isOf before isOf) ih

theorem generate_of_kept {name : String} {stub : Stub} {d : Declaration String}
    (stands : g.table.interface name = .ok d) (kept : g.memo.get? d.name = some stub) :
    g.generate name = (g, .ok stub) := by
  have known : g.memo.has d.name = true := Option.isSome_iff_exists.mpr ⟨stub, kept⟩
  have worked : work (g.table.declarations.length + 1) g [d.name] = (g, none) := by
    rw [work, List.dropWhile_cons_of_pos known, List.dropWhile_nil]
  rw [generate, stands]
  simp only [worked, kept]

def Offers (g : Generator) (name : String) : Prop := ∃ stub, g.Yields name g stub

theorem Yields.changes {name : String} {stub : Stub} (yields : g.Yields name after stub) :
    Changes g after := by
  have changes := g.changes_generate name
  rwa [yields.generated] at changes

theorem Yields.offers {name : String} {stub : Stub} (isOf : g.IsOf t lead)
    (yields : g.Yields name after stub) : after.Offers name := by
  obtain ⟨d, stands, kept⟩ := exists_get?_memo yields.generated
  rw [isOf.interface_eq, ← (yields.changes.isOf isOf).interface_eq] at stands
  exact ⟨stub, generate_of_kept stands kept, yields.made⟩

theorem Changes.offers (arena : t.IsArena) (isOf : g.IsOf t lead) (changes : Changes g after)
    {name : String} (offers : g.Offers name) : after.Offers name := by
  obtain ⟨stub, yields⟩ := offers
  obtain ⟨d, stands, kept⟩ := exists_get?_memo yields.generated
  rw [isOf.interface_eq, ← (changes.isOf isOf).interface_eq] at stands
  exact ⟨stub, generate_of_kept stands (changes.keeps arena isOf kept), yields.made⟩

end Generator

namespace Bench

variable {b c : Bench} {number n : Nat} {d e : Double} {t : SymbolTable} {lead : Value}

/-- A bench whose doubles are those of stubs that are built from a table. -/
structure IsSound (t : SymbolTable) (lead : Value) (b : Bench) : Prop where
  generator : b.generator.IsOf t lead
  doubles : ∀ n d, b.double? n = some d → d.IsSound
  stubs : ∀ n d, b.double? n = some d →
    ∃ declared ∈ t.declarations, t.buildStub lead declared = .ok d.stub

theorem isSound_empty {g : Generator} (isOf : g.IsOf t lead) : (empty g).IsSound t lead :=
  ⟨isOf, by simp [empty, double?], by simp [empty, double?]⟩

theorem Shift.isSound (shift : Shift b c) (sound : b.IsSound t lead) : c.IsSound t lead := by
  have becomes {n : Nat} {after : Double} (there : c.double? n = some after) :=
    shift.becomes sound.doubles there
  refine ⟨?generator, fun n after there => ?doubles, fun n after there => ?stubs⟩
  case generator =>
    rcases shift.generator with same | ⟨name, generated⟩
    · exact same ▸ sound.generator
    · exact generated ▸ (Generator.changes_generate _ name).isOf sound.generator
  case doubles =>
    cases becomes there with
    | changed old changes => exact (Double.isSound_of_changes changes (sound.doubles n _ old)).1
    | born _ _ fresh => exact fresh ▸ Double.isSound_fresh _
  case stubs =>
    cases becomes there with
    | changed old changes =>
      rw [(Double.isSound_of_changes changes (sound.doubles n _ old)).2]
      exact sound.stubs n _ old
    | born _ generated fresh => exact fresh ▸ sound.generator.of_generate generated

theorem Shifts.isSound (shifts : Shifts b c) (sound : b.IsSound t lead) : c.IsSound t lead := by
  induction shifts with
  | refl => exact sound
  | tail _ shift ih => exact shift.isSound ih

theorem IsSound.method?_accessor (sound : b.IsSound t lead) (known : b.double? n = some d)
    {m : InstrumentedMethod} (member : m ∈ d.stub.methods) :
    d.stub.method? m.accessor = some m := by
  obtain ⟨_, _, built⟩ := sound.stubs n d known
  exact SymbolTable.method?_accessor built member

theorem IsSound.nodup_accessors (sound : b.IsSound t lead) (known : b.double? n = some d) :
    (d.stub.methods.map (·.accessor)).Nodup := by
  obtain ⟨_, _, built⟩ := sound.stubs n d known
  exact SymbolTable.nodup_accessors built

def child? (b : Bench) (number : Nat) (accessor : String) : Option Nat :=
  (b.double? number).bind (·.nested.get? accessor)

/-- A method of a double hands out a double for the first time, and all other methods have those that
they had. -/
structure HandsOut (b c : Bench) (number : Nat) (d : Double) (m : InstrumentedMethod)
    (interface : String) (stub : Stub) : Prop where
  known : b.double? number = some d
  found : ∃ key, d.stub.method? key = some m
  handed : m.nested = some interface
  unused : d.nested.get? m.accessor = none
  yields : b.generator.Yields interface c.generator stub
  double : c.double? b.doubles.length = some (.fresh stub)
  child : ∀ n a, c.child? n a =
    if n = number ∧ a = m.accessor then some b.doubles.length else b.child? n a
  length : c.doubles.length = b.doubles.length + 1

theorem child?_of_modify {change : Double → Double}
    (doubles : c.doubles = b.doubles.modify number change)
    (same : ∀ d, (change d).nested = d.nested) (n : Nat) (a : String) :
    c.child? n a = b.child? n a := by
  rw [child?, child?, double?_eq_update doubles]
  by_cases own : n = number
  · subst own
    rw [double?_update_self]
    cases b.double? n with
    | none => rfl
    | some d => exact congrArg (·.get? a) (same d)
  · rw [double?_update_ne b change (Ne.symm own)]

theorem child?_of_append {stub : Stub} (doubles : c.doubles = b.doubles ++ [.fresh stub]) (n : Nat)
    (a : String) : c.child? n a = b.child? n a := by
  rw [child?, child?, double?, double?, doubles, List.getElem?_append]
  split
  next => rfl
  next late =>
    have missing : b.doubles[n]? = none := List.getElem?_eq_none (by omega)
    rw [missing, List.getElem?_singleton]
    split <;> rfl

theorem nested_reset (d : Double) (space : Space) (key : String) :
    (d.reset space key).nested = d.nested := by
  cases space with
  | counter | callback => rfl
  | static =>
    unfold Double.reset Double.setStatic
    dsimp only
    split
    · split <;> rfl
    · rfl

theorem Shift.handsOut_or (shift : Shift b c) :
    (∃ number d m interface stub, HandsOut b c number d m interface stub) ∨
      (∀ n a, c.child? n a = b.child? n a) ∧ b.doubles.length ≤ c.doubles.length := by
  -- All other changes are changes of one double that leave what it has handed out.
  have updated {number : Nat} {change : Double → Double}
      (doubles : c.doubles = b.doubles.modify number change)
      (same : ∀ d, (change d).nested = d.nested) :
      (∀ n a, c.child? n a = b.child? n a) ∧ b.doubles.length ≤ c.doubles.length :=
    ⟨child?_of_modify doubles same, by rw [doubles, List.length_modify]⟩
  cases shift with
  | beside | generate => exact .inr ⟨fun _ _ => rfl, Nat.le_refl _⟩
  | create =>
    exact .inr ⟨child?_of_append rfl, by simp⟩
  | @handOut number d key interface m generator stub known found handed unused yields =>
    have bound : number < b.doubles.length := (List.getElem?_eq_some_iff.mp known).1
    let between : Bench := { b with generator, doubles := b.doubles ++ [Double.fresh stub] }
    refine .inl ⟨number, d, m, interface, stub,
      ⟨known, ⟨key, found⟩, handed, unused, yields, ?double, ?child, ?length⟩⟩
    case double =>
      refine (double?_update_ne between _ bound.ne).trans ?_
      simp [between, double?]
    case child =>
      intro n a
      have old : between.child? n a = b.child? n a := child?_of_append rfl n a
      rw [← old]
      by_cases own : n = number
      · subst own
        have there : between.double? n = some d := by
          rw [← known]
          exact List.getElem?_append_left bound
        rw [child?, double?_update_self, child?, there]
        by_cases same : a = m.accessor
        · subst same
          rw [if_pos ⟨rfl, rfl⟩]
          exact Assoc.get?_set_self _ _ _
        · rw [if_neg fun both => same both.2]
          exact Assoc.get?_set_ne _ _ same
      · rw [child?, double?_update_ne between _ (Ne.symm own), if_neg fun both => own both.1]
        rfl
    case length => simp [update]
  | mark number marks => exact .inr (updated rfl fun _ => rfl)
  | setStatic number key answer =>
    refine .inr (updated rfl fun d => ?_)
    unfold Double.setStatic
    split <;> rfl
  | setCallback => exact .inr (updated rfl fun _ => rfl)
  | @accept number d m args known member arity =>
    obtain ⟨change, doubles, rfl | ⟨params, rfl⟩⟩ := b.doubles_accept number m arity <;>
      exact .inr (updated doubles fun _ => rfl)
  | @reset number d space key _ _ =>
    have doubles : (b.reset number space key).doubles =
        b.doubles.modify number (·.reset space key) := by
      cases space <;> rfl
    exact .inr (updated doubles fun d => nested_reset d space key)
  | resetSpace number space => cases space <;> exact .inr (updated rfl fun _ => rfl)
  | resetAll number =>
    have doubles : (b.resetAll number).doubles = b.doubles.modify number Double.resetAll := rfl
    exact .inr (updated doubles fun _ => rfl)

theorem Shifts.child?_eq (shifts : Shifts b c) {a : String} {k : Nat}
    (child : b.child? number a = some k) : c.child? number a = some k := by
  induction shifts with
  | refl => exact child
  | tail _ shift ih =>
    rcases shift.handsOut_or with ⟨n, d, m, interface, stub, handsOut⟩ | ⟨same, _⟩
    · rw [handsOut.child, if_neg]
      · exact ih
      · rintro ⟨rfl, rfl⟩
        rw [child?, handsOut.known, Option.bind_some, handsOut.unused] at ih
        cases ih
    · rw [same]
      exact ih

/-- Every double that is handed out has one double and one method that it comes from, and is younger
than that double. -/
structure IsFamily (b : Bench) : Prop where
  younger : ∀ n a k, b.child? n a = some k → n < k ∧ k < b.doubles.length
  alone : ∀ n a n' a' k, b.child? n a = some k → b.child? n' a' = some k → n = n' ∧ a = a'

theorem isFamily_empty (g : Generator) : (empty g).IsFamily :=
  ⟨by simp [child?, empty, double?], by simp [child?, empty, double?]⟩

theorem Shift.isFamily (shift : Shift b c) (family : b.IsFamily) : c.IsFamily := by
  rcases shift.handsOut_or with ⟨number, d, m, interface, stub, handsOut⟩ | ⟨same, grown⟩
  · have bound : number < b.doubles.length := (List.getElem?_eq_some_iff.mp handsOut.known).1
    have length := handsOut.length
    constructor
    case younger =>
      intro n a k there
      rw [handsOut.child] at there
      split at there
      next own =>
        cases there
        omega
      next =>
        have old := family.younger n a k there
        omega
    case alone =>
      intro n a n' a' k there there'
      rw [handsOut.child] at there there'
      -- The new double has a number that no other one has.
      split at there <;> split at there'
      next own own' => exact ⟨own.1.trans own'.1.symm, own.2.trans own'.2.symm⟩
      next =>
        cases there
        exact absurd (family.younger n' a' _ there').2 (Nat.lt_irrefl _)
      next =>
        cases there'
        exact absurd (family.younger n a _ there).2 (Nat.lt_irrefl _)
      next => exact family.alone n a n' a' k there there'
  · constructor
    case younger =>
      intro n a k there
      have old := family.younger n a k (same n a ▸ there)
      omega
    case alone =>
      intro n a n' a' k there there'
      exact family.alone n a n' a' k (same n a ▸ there) (same n' a' ▸ there')

theorem Shifts.isFamily (shifts : Shifts b c) (family : b.IsFamily) : c.IsFamily := by
  induction shifts with
  | refl => exact family
  | tail _ shift ih => exact shift.isFamily ih

/-! ## Handing out -/

section HandingOut

variable {made : Double} {m : InstrumentedMethod} {key interface accessor : String}
  {generator : Generator}

def withHeir (b : Bench) (n : Nat) (accessor : String) (generator : Generator) (made : Double) :
    Bench :=
  { b with generator, doubles := b.doubles ++ [made] }.update n fun d =>
    { d with nested := d.nested.set accessor b.doubles.length }

theorem double?_withHeir (known : b.double? n = some d) :
    (b.withHeir n accessor generator made).double? n =
      some { d with nested := d.nested.set accessor b.doubles.length } := by
  have bound : n < b.doubles.length := (List.getElem?_eq_some_iff.mp known).1
  have old : Bench.double? { b with generator, doubles := b.doubles ++ [made] } n = some d :=
    (List.getElem?_append_left bound).trans known
  rw [withHeir, double?_update_self, old]
  rfl

theorem child?_withHeir (known : b.double? n = some d) :
    (b.withHeir n accessor generator made).child? n accessor = some b.doubles.length := by
  rw [child?, double?_withHeir known]
  exact Assoc.get?_set_self _ _ _

theorem nested_eq_withHeir (known : b.double? n = some d) (found : d.stub.method? key = some m)
    (handed : m.nested = some interface) (unused : d.nested.get? m.accessor = none) :
    b.nested n key =
      match b.generator.generate interface with
      | (generator, .error fault) => ({ b with generator }, .error (.generate fault))
      | (generator, .ok stub) =>
        match Double.ofStub stub with
        | .error slip => ({ b with generator }, .error (.generate (.slip slip)))
        | .ok made =>
          (b.withHeir n m.accessor generator made, .ok (.double b.doubles.length)) := by
  rw [nested_of_unused known found handed unused, create]
  rcases b.generator.generate interface with ⟨generator, fault | stub⟩
  · rfl
  · dsimp only
    cases Double.ofStub stub with
    | error slip => rfl
    | ok made => rfl

theorem nested_of_offers (known : b.double? n = some d) (found : d.stub.method? key = some m)
    (handed : m.nested = some interface) (unused : d.nested.get? m.accessor = none)
    (offers : b.generator.Offers interface) :
    ∃ made, b.nested n key =
      (b.withHeir n m.accessor b.generator made, .ok (.double b.doubles.length)) := by
  obtain ⟨stub, yields⟩ := offers
  refine ⟨.fresh stub, ?_⟩
  rw [nested_eq_withHeir known found handed unused, yields.generated]
  dsimp only
  rw [yields.made]

end HandingOut

/-! ## Stocks -/

/-- A bench whose generator keeps the stubs of all doubles, and those of what methods hand out as long
as they do. -/
structure IsStocked (t : SymbolTable) (lead : Value) (b : Bench) : Prop extends b.IsSound t lead where
  kept : ∀ n d, b.double? n = some d → b.generator.memo.get? d.interface = some d.stub
  offered : ∀ n d m k, b.double? n = some d → m ∈ d.stub.methods → b.child? n m.accessor = some k →
    ∃ interface, m.nested = some interface ∧ b.generator.Offers interface

theorem isStocked_empty {g : Generator} (isOf : g.IsOf t lead) : (empty g).IsStocked t lead :=
  ⟨isSound_empty isOf, by simp [empty, double?], by simp [empty, double?]⟩

theorem Shift.changes (shift : Shift b c) : Generator.Changes b.generator c.generator := by
  rcases shift.generator with same | ⟨name, generated⟩
  · rw [same]
  · rw [generated]
    exact b.generator.changes_generate name

theorem Shift.child_cases (shift : Shift b c) (sound : b.IsSound t lead) {after : Double}
    {m : InstrumentedMethod} {k : Nat} (there : c.double? n = some after)
    (member : m ∈ after.stub.methods) (child : c.child? n m.accessor = some k) :
    (∃ d, b.double? n = some d ∧ m ∈ d.stub.methods ∧ b.child? n m.accessor = some k) ∨
      ∃ d interface stub, HandsOut b c n d m interface stub ∧ k = b.doubles.length := by
  have before (old : b.child? n m.accessor = some k) :
      ∃ d, b.double? n = some d ∧ m ∈ d.stub.methods ∧ b.child? n m.accessor = some k := by
    obtain ⟨d, known, _⟩ := Option.bind_eq_some_iff.mp old
    obtain ⟨d', there', stub⟩ := shift.moves.double? known
    cases there.symm.trans there'
    exact ⟨d, known, stub ▸ member, old⟩
  rcases shift.handsOut_or with ⟨number, d, own, interface, stub, handsOut⟩ | ⟨same, _⟩
  · rw [handsOut.child] at child
    split at child
    next first =>
      obtain ⟨rfl, accessor⟩ := first
      obtain ⟨key, found⟩ := handsOut.found
      obtain ⟨d', there', stubs⟩ := shift.moves.double? handsOut.known
      cases there.symm.trans there'
      -- Its accessor tells the method that hands out from all others.
      cases List.inj_on_of_nodup_map (sound.nodup_accessors handsOut.known) (stubs ▸ member)
        (mem_of_method? found) accessor
      exact .inr ⟨d, interface, stub, handsOut, (Option.some.inj child).symm⟩
    next => exact .inl (before child)
  · exact .inl (before (same n m.accessor ▸ child))

theorem Shift.isStocked (arena : t.IsArena) (shift : Shift b c) (stocked : b.IsStocked t lead) :
    c.IsStocked t lead := by
  have sound := stocked.toIsSound
  have isOf := sound.generator
  refine ⟨shift.isSound sound, fun n after there => ?kept,
    fun n after m k there member child => ?offered⟩
  case kept =>
    cases shift.becomes sound.doubles there with
    | @changed d old changes =>
      have stub := (Double.isSound_of_changes changes (sound.doubles n d old)).2
      have same : after.interface = d.interface := congrArg (·.interface) stub
      rw [same, stub]
      exact shift.changes.keeps arena isOf (stocked.kept n d old)
    | @born name stub _ generated fresh =>
      obtain ⟨declared, _, kept⟩ := Generator.exists_get?_memo generated
      have named := (shift.changes.isOf isOf).interface_eq_name kept
      rw [fresh]
      rwa [← named] at kept
  case offered =>
    rcases shift.child_cases sound there member child with
      ⟨d, known, listed, old⟩ | ⟨d, interface, stub, handsOut, _⟩
    · obtain ⟨interface, handed, offers⟩ := stocked.offered n d m k known listed old
      exact ⟨interface, handed, shift.changes.offers arena isOf offers⟩
    · exact ⟨interface, handsOut.handed, handsOut.yields.offers isOf⟩

theorem Shifts.isStocked (arena : t.IsArena) (shifts : Shifts b c) (stocked : b.IsStocked t lead) :
    c.IsStocked t lead := by
  induction shifts with
  | refl => exact stocked
  | tail _ shift ih => exact shift.isStocked arena ih

end Bench
end Understudy
