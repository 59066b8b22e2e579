import Understudy.Proofs.Double.Override
import Understudy.Proofs.Double.Selecting
import Understudy.Proofs.Stub.Header

/-! Doubles that doubles hand out.

A method that returns an interface has one double to hand out, made when it is first asked for. Main
statement: however it is asked for, and whatever else is done on the bench, it goes on handing out that
one, which no other method hands out, and for which nothing new has to be generated.
-/

set_option autoImplicit false

open Relation (ReflTransGen)

namespace Understudy

open Understudy.Cpp

/-- For a method neither a callback is set nor a static answer. -/
structure Double.IsUnset (d : Double) (m : InstrumentedMethod) : Prop where
  callback : d.callback? m.accessor = none
  static : ∀ answer, d.static? m.accessor = some answer → answer.current.isNothing = true

def SymbolTable.IsRelative (t : SymbolTable) : Prop :=
  ∀ d ∈ t.declarations, ∀ rest, d.name ≠ qualify "" rest

namespace Generator

variable {g after : Generator} {t : SymbolTable} {lead name : String} {names : List String}
  {stub : Stub}

theorem interface_eq_of_isRelative (arena : t.IsArena) (relative : t.IsRelative)
    (full : t.IsFullInterface name) : ∃ d, t.interface name = .ok d ∧ d.name = name := by
  have unmarked : ∀ rest, name ≠ qualify "" rest := by
    obtain ⟨d, declared, rfl, _⟩ := full
    exact relative d declared
  exact SymbolTable.interface_of_relative arena full unmarked

theorem Owes.interface_of_generate (arena : t.IsArena) (relative : t.IsRelative)
    (owes : Owes t lead names g []) (full : t.IsFullInterface name)
    (generated : g.generate name = (after, .ok stub)) : stub.interface = name := by
  obtain ⟨d, stands, kept⟩ := exists_get?_memo generated
  obtain ⟨declared, meant, named⟩ := interface_eq_of_isRelative arena relative full
  rw [owes.interface_eq, meant] at stands
  cases stands
  exact ((owes.of_generate arena generated).1.interface_eq_name arena kept).trans named

end Generator

namespace Bench

variable {b c : Bench} {number n : Nat} {d e : Double} {t : SymbolTable} {lead : String}
  {m : InstrumentedMethod} {key interface : String} {args : List Datum}

/-! ## Nothing is owed -/

/-- A bench whose generator owes nothing, and whose doubles hand out those that they should. -/
structure IsServed (t : SymbolTable) (lead : String) (b : Bench) : Prop
    extends b.IsStocked t (.text lead) where
  owes : ∃ names, Generator.Owes t lead names b.generator []
  handed : ∀ n d m k, b.double? n = some d → m ∈ d.stub.methods → b.child? n m.accessor = some k →
    ∃ e, b.double? k = some e ∧ m.nested = some e.interface

theorem isServed_empty (t : SymbolTable) (classification : Option Classification) (lead : String) :
    (empty ⟨t, classification, .text lead, []⟩).IsServed t lead :=
  ⟨isStocked_empty (Generator.isOf_fresh t classification (.text lead)),
    ⟨[], Generator.owes_fresh t classification lead⟩, by simp [empty, double?]⟩

theorem Shift.owes (arena : t.IsArena) (spelled : t.IsSpelled) (shift : Shift b c)
    {names : List String} (owes : Generator.Owes t lead names b.generator []) :
    ∃ names, Generator.Owes t lead names c.generator [] := by
  rcases shift.generator with same | ⟨name, generated⟩
  · rw [same]
    exact ⟨names, owes⟩
  · rw [generated]
    exact ⟨_, (owes.serveAll arena spelled [.single name]).1⟩

theorem Shift.isServed (arena : t.IsArena) (spelled : t.IsSpelled) (relative : t.IsRelative)
    (shift : Shift b c) (served : b.IsServed t lead) : c.IsServed t lead := by
  obtain ⟨names, owes⟩ := served.owes
  refine ⟨shift.isStocked arena served.toIsStocked, shift.owes arena spelled owes,
    fun n after m k there member child => ?_⟩
  rcases shift.child_cases served.toIsSound there member child with
    ⟨d, known, listed, old⟩ | ⟨d, interface, stub, handsOut, rfl⟩
  · obtain ⟨e, handed, interface⟩ := served.handed n d m k known listed old
    obtain ⟨e', last, same⟩ := shift.moves.double? handed
    exact ⟨e', last, interface.trans (congrArg (fun s : Stub => some s.interface) same.symm)⟩
  · obtain ⟨key, found⟩ := handsOut.found
    obtain ⟨_, _, built⟩ := served.stubs n d handsOut.known
    have full :=
      (SymbolTable.nested_of_returnKind built (mem_of_method? found)).2 interface handsOut.handed
    have named := owes.interface_of_generate arena relative full handsOut.yields.generated
    exact ⟨_, handsOut.double, handsOut.handed.trans (congrArg some named.symm)⟩

theorem Shifts.isServed (arena : t.IsArena) (spelled : t.IsSpelled) (relative : t.IsRelative)
    (shifts : Shifts b c) (served : b.IsServed t lead) : c.IsServed t lead := by
  induction shifts with
  | refl => exact served
  | tail _ shift ih => exact shift.isServed arena spelled relative ih

/-! ## Handing out -/

/-- The double that is handed out for a method: the one that was, or the next one that is made. -/
def heir (b : Bench) (number : Nat) (accessor : String) : Nat :=
  (b.child? number accessor).getD b.doubles.length

theorem heir_of_modify {f : Double → Double}
    (doubles : c.doubles = b.doubles.modify number f) (same : ∀ d, (f d).nested = d.nested)
    (n : Nat) (a : String) : c.heir n a = b.heir n a := by
  rw [heir, heir, child?_of_modify doubles same, doubles, List.length_modify]

theorem offers_of_kept (arena : t.IsArena) (spelled : t.IsSpelled) {names : List String}
    {g : Generator} (owes : Generator.Owes t lead names g []) {declared : Declaration String}
    (stands : t.interface interface = .ok declared) {stub : Stub}
    (kept : g.memo.get? declared.name = some stub) : g.Offers interface := by
  obtain ⟨d, found, built⟩ := owes.entries _ _ kept
  exact ⟨stub, Generator.generate_of_kept ((owes.interface_eq _).trans stands) kept,
    SymbolTable.ofStub_of_buildStub arena spelled (SymbolTable.mem_of_get? found) built⟩

theorem IsServed.exists_kept (served : b.IsServed t lead)
    (known : b.double? number = some d) (member : m ∈ d.stub.methods)
    (handed : m.nested = some interface) :
    ∃ stub, b.generator.memo.get? interface = some stub := by
  obtain ⟨names, owes⟩ := served.owes
  obtain ⟨_, _, built⟩ := served.stubs number d known
  have due : interface ∈ d.stub.nested := by
    rw [(SymbolTable.isNamed_of_buildStub built).nested, List.mem_eraseDups]
    exact List.mem_filterMap.mpr ⟨m, member, handed⟩
  have has := (owes.nested _ _ (served.kept number d known) interface due).resolve_right (by simp)
  exact Option.isSome_iff_exists.mp has

theorem nested_eq_heir (arena : t.IsArena) (spelled : t.IsSpelled) (relative : t.IsRelative)
    (served : b.IsServed t lead) (known : b.double? number = some d)
    (found : d.stub.method? key = some m) (returns : m.returnKind.returnsInterface = true) :
    ∃ c, b.nested number key = (c, .ok (.double (b.heir number m.accessor))) ∧
      c.generator = b.generator ∧
        c.child? number m.accessor = some (b.heir number m.accessor) := by
  have member := mem_of_method? found
  obtain ⟨names, owes⟩ := served.owes
  obtain ⟨_, _, built⟩ := served.stubs number d known
  obtain ⟨both, full⟩ := SymbolTable.nested_of_returnKind built member
  obtain ⟨interface, handed⟩ := Option.isSome_iff_exists.mp (both.symm.trans returns)
  have child : b.child? number m.accessor = d.nested.get? m.accessor := by
    rw [child?, known, Option.bind_some]
  cases there : d.nested.get? m.accessor with
  | some k =>
    rw [there] at child
    have heir : b.heir number m.accessor = k := by rw [Bench.heir, child, Option.getD_some]
    rw [nested_of_used known found handed there, heir]
    exact ⟨b, rfl, rfl, child⟩
  | none =>
    rw [there] at child
    have heir : b.heir number m.accessor = b.doubles.length := by
      rw [Bench.heir, child, Option.getD_none]
    obtain ⟨declared, stands, named⟩ :=
      Generator.interface_eq_of_isRelative arena relative (full interface handed)
    obtain ⟨stub, kept⟩ := served.exists_kept known member handed
    have offers := offers_of_kept arena spelled owes stands (named ▸ kept)
    obtain ⟨made, first⟩ := nested_of_offers known found handed there offers
    rw [first, heir]
    exact ⟨_, rfl, rfl, child?_withHeir known⟩

/-- How a method is asked for the double that it hands out: by a key, or by a call that nothing is set
for and whose arguments can be kept. -/
inductive Asks (b : Bench) (number : Nat) (d : Double) (m : InstrumentedMethod) : Outcome → Prop where
  | nested {key : String} : d.stub.method? key = some m →
      Asks b number d m (b.take (.nested number (.text key)))
  | invoke {key : String} {args kept : List Datum} {last : Heap} : d.stub.method? key = some m →
      d.IsUnset m → Kept m.method.parameters args b.heap kept last →
        Asks b number d m (b.take (.invoke number (.text key) args))
  /-- At any depth inside other calls. -/
  | within {key : String} {args kept : List Datum} {last : Heap} (fuel : Nat) :
      d.stub.method? key = some m → d.IsUnset m → Kept m.method.parameters args b.heap kept last →
        Asks b number d m (invokeWith (fuel + 1) b number key args)

theorem exists_accept (known : b.double? number = some d) (member : m ∈ d.stub.methods)
    {kept : List Datum} {last : Heap} (keeps : Kept m.method.parameters args b.heap kept last) :
    ∃ between d', b.accept number m args = (between, .ok ()) ∧ Shift b between ∧
      between.double? number = some d' ∧ d'.stub = d.stub ∧ d'.statics = d.statics ∧
        between.heir number m.accessor = b.heir number m.accessor ∧
          between.generator = b.generator := by
  rcases accept_cases b number m keeps.length_eq with ⟨_, _, lost, _⟩ | ⟨heap, params, _, ran⟩
  · exact absurd ⟨last, keeps⟩ (lost kept)
  · refine ⟨_, keeping m params (counting m d), ran, .of_accept known member keeps.length_eq ran,
      ?own, rfl, rfl, ?same, rfl⟩
    case own =>
      refine (double?_update_self _ number _).trans ?_
      rw [show (b.note (.call number m args b.heap)).double? number = some d from known]
      rfl
    case same => exact heir_of_modify (f := keeping m params ∘ counting m) rfl (fun _ => rfl) _ _

theorem fallBack_eq_nested (known : b.double? number = some d) (slotted : Double.IsSlotted d.stub d)
    (member : m ∈ d.stub.methods) (returns : m.returnKind.returnsInterface = true)
    (unset : ∀ answer, d.static? m.accessor = some answer → answer.current.isNothing = true) :
    b.fallBack number m = b.nested number m.accessor := by
  have returning : m.isVoid = false := by
    rw [InstrumentedMethod.isVoid]
    cases kind : m.returnKind <;> rw [kind] at returns <;> first | rfl | cases returns
  obtain ⟨answer, there⟩ := slotted.exists_static member returning
  rw [fallBack, returning, known, Option.bind_some, there]
  simp [returns, unset answer there]

theorem Asks.exists_heir (arena : t.IsArena) (spelled : t.IsSpelled) (relative : t.IsRelative)
    (served : b.IsServed t lead)
    (known : b.double? number = some d) (returns : m.returnKind.returnsInterface = true)
    {outcome : Outcome} (asks : Asks b number d m outcome) :
    outcome.2 = .ok (.double (b.heir number m.accessor)) ∧
      outcome.1.generator = b.generator ∧ Shifts b outcome.1 ∧
        outcome.1.child? number m.accessor = some (b.heir number m.accessor) := by
  have within {key : String} {args kept : List Datum} {last : Heap} (fuel : Nat)
      (found : d.stub.method? key = some m) (unset : d.IsUnset m)
      (keeps : Kept m.method.parameters args b.heap kept last) :
      let outcome := invokeWith (fuel + 1) b number key args
      outcome.2 = .ok (.double (b.heir number m.accessor)) ∧
        outcome.1.generator = b.generator ∧ Shifts b outcome.1 ∧
          outcome.1.child? number m.accessor = some (b.heir number m.accessor) := by
    intro outcome
    have shifts : Shifts b outcome.1 := shifting_invokeWith (fuel + 1) b number key args
    have member := mem_of_method? found
    obtain ⟨between, d', taken, shift, there, stub, statics, heir, generator⟩ :=
      exists_accept known member keeps
    have ran := invokes_invokeWith known found args fuel
    change Invokes b number d m args fuel outcome at ran
    generalize outcome = o at ran shifts ⊢
    cases ran with
    | refused mismatch => exact absurd keeps.length_eq mismatch
    | lost _ lost =>
      rw [taken] at lost
      cases lost
    | handed _ _ set_ _ =>
      rw [unset.callback] at set_
      cases set_
    | answered _ again _ =>
      rw [taken] at again
      cases again
      have own : d'.stub.method? m.accessor = some m := by
        rw [stub]
        exact served.method?_accessor known member
      -- Taking the call has handed out nothing, so the next double is still the one it was.
      obtain ⟨c, handed, same, child⟩ := nested_eq_heir arena spelled relative
        (shift.isServed arena spelled relative served) there own returns
      have slotted := ((shift.isSound served.toIsSound).doubles number d' there).slotted
      have fallen := fallBack_eq_nested there slotted (stub ▸ member) returns fun answer set_ =>
        unset.static answer (by rwa [Double.static?, ← stub, ← statics])
      rw [fallen, handed] at shifts ⊢
      rw [heir] at child ⊢
      exact ⟨rfl, same.trans generator, shifts, child⟩
  cases asks with
  | @nested key found =>
    obtain ⟨c, handed, same, child⟩ :=
      nested_eq_heir arena spelled relative served known found returns
    have shifts := (nests_nested b number key).quietly.shifts
    have taken : b.take (.nested number (.text key)) = b.nested number key := rfl
    rw [taken]
    rw [handed] at shifts ⊢
    exact ⟨rfl, same, shifts, child⟩
  | @invoke key args _ _ found unset keeps =>
    obtain ⟨fuel, deep⟩ := b.exists_invokeWith_eq number key args
    rw [deep]
    exact within fuel found unset keeps
  | within fuel found unset keeps => exact within fuel found unset keeps

/-! ## What a step leaves alone -/

/-- No double but one has changed. -/
def LeavesDoubles (b c : Bench) (number : Nat) : Prop :=
  ∀ n d, n ≠ number → b.double? n = some d → c.double? n = some d

theorem LeavesDoubles.refl (b : Bench) (number : Nat) : LeavesDoubles b b number :=
  fun _ _ _ known => known

theorem LeavesDoubles.trans {c' : Bench} (first : LeavesDoubles b c number)
    (second : LeavesDoubles c c' number) : LeavesDoubles b c' number :=
  fun n d apart known => second n d apart (first n d apart known)

theorem leavesDoubles_of_modify {change : Double → Double}
    (doubles : c.doubles = b.doubles.modify number change) : LeavesDoubles b c number := by
  intro n d apart known
  rwa [double?_eq_update doubles, double?_update_ne b change (Ne.symm apart)]

theorem leavesDoubles_accept (arity : args.length = m.arity) :
    LeavesDoubles b (b.accept number m args).1 number := by
  obtain ⟨_, doubles, _⟩ := b.doubles_accept number m arity
  exact leavesDoubles_of_modify doubles

theorem Nests.leavesDoubles (nests : Nests b number key c) : LeavesDoubles b c number := by
  cases nests with
  | same => exact .refl b number
  | refused _ => exact fun _ _ _ known => known
  | made _ _ _ _ _ =>
    intro n d apart known
    refine (double?_update_ne _ _ (Ne.symm apart)).trans ?_
    exact (List.getElem?_append_left (List.getElem?_eq_some_iff.mp known).1).trans known

/-- A step changes no double but one before it hands over, if at all, to a callback of that one. -/
def Confined (b after : Bench) (number : Nat) : Prop :=
  ∃ between, Shifts b between ∧ LeavesDoubles b between number ∧
    (after = between ∨ ∃ d accessor callback args fuel, b.double? number = some d ∧
      d.callback? accessor = some callback ∧
        after = (between.handOver (invokeWith fuel) number accessor args callback).1)

theorem confined_invokeWith (known : b.double? number = some d)
    (found : d.stub.method? key = some m) (args : List Datum) (fuel : Nat) :
    Confined b (invokeWith fuel b number key args).1 number := by
  cases fuel with
  | zero => exact ⟨b, .refl, .refl b number, .inl rfl⟩
  | succ fuel =>
    have ran := invokes_invokeWith known found args fuel
    have accepted {between : Bench} {result : Except Slip Unit} (arity : args.length = m.arity)
        (taken : b.accept number m args = (between, result)) :
        Shifts b between ∧ LeavesDoubles b between number := by
      have leaves : LeavesDoubles b (b.accept number m args).1 number := leavesDoubles_accept arity
      rw [taken] at leaves
      exact ⟨.single (.of_accept known (mem_of_method? found) arity taken), leaves⟩
    generalize invokeWith (fuel + 1) b number key args = outcome at ran ⊢
    cases ran with
    | refused _ => exact ⟨b, .refl, .refl b number, .inl rfl⟩
    | lost arity lost =>
      obtain ⟨shifts, leaves⟩ := accepted arity lost
      exact ⟨_, shifts, leaves, .inl rfl⟩
    | @handed between _ callback _ arity taken set_ handed =>
      obtain ⟨shifts, leaves⟩ := accepted arity taken
      exact ⟨between, shifts, leaves,
        .inr ⟨d, m.accessor, callback, args, fuel, known, set_, by rw [handed]⟩⟩
    | @answered between arity taken _ =>
      obtain ⟨shifts, leaves⟩ := accepted arity taken
      have nests := nests_fallBack between number m
      exact ⟨_, shifts.trans nests.quietly.shifts, leaves.trans nests.leavesDoubles, .inl rfl⟩

theorem confined_take {s : TestStep} {accessor : String} (addresses : s.Addresses b number accessor) :
    Confined b (b.take s).1 number := by
  have shifts := shifts_take b s
  cases addresses with
  | invoke known found => exact confined_invokeWith known found _ _
  | @call number d name m args known unmarked plain common certain chosen =>
    have member : m ∈ d.stub.methods := by
      have listed : m ∈ (d.stub.methodsNamed name).filter (·.arity == args.length) := by
        rw [chosen]
        exact List.mem_singleton_self m
      exact (Stub.mem_candidates.mp listed).1
    obtain ⟨first, _, found, same⟩ := Stub.exists_method?_accessor member
    rw [take_call_of_candidates known unmarked plain common certain chosen, ← same]
    exact confined_invokeWith known (same.symm ▸ found) args _
  | nested known found => exact ⟨_, shifts, (nests_nested b number _).leavesDoubles, .inl rfl⟩
  | setStatic known located | setCallback known located =>
    refine ⟨_, shifts, ?_, .inl rfl⟩
    simp only [take, atSlot, known, located]
    exact leavesDoubles_of_modify rfl
  | @reset _ d space access key accessor known located =>
    refine ⟨_, shifts, ?_, .inl rfl⟩
    simp only [take, atSlot, known, located]
    cases space <;> exact leavesDoubles_of_modify rfl

theorem confined_resetAll (b : Bench) (number : Nat) :
    Confined b (b.take (.resetAll number)).1 number := by
  refine ⟨_, shifts_take b _, ?_, .inl rfl⟩
  simp only [take]
  split
  · exact leavesDoubles_of_modify rfl
  · exact .refl b number

/-! ## Main statement -/

/-- How a double hands out others. -/
structure Handing (b : Bench) (number : Nat) (d : Double) : Prop where
  /-- However a method is asked, and whatever happens in between, it hands out one double, and no
  other method does. Nothing is generated for that. -/
  hands : ∀ m, m.returnKind.returnsInterface = true → ∃ k, number < k ∧
    ∀ outcome, Asks b number d m outcome → outcome.2 = .ok (.double k) ∧
      outcome.1.generator = b.generator ∧
        (outcome.1.double? k).map (·.interface) = m.nested ∧
          ∀ c, Shifts outcome.1 c → ∀ n e m', c.double? n = some e →
            m'.returnKind.returnsInterface = true → ∀ outcome', Asks c n e m' outcome' →
              ∃ k', outcome'.2 = .ok (.double k') ∧
                (k' = k ↔ n = number ∧ m'.accessor = m.accessor)
  /-- What is asked of one double leaves all others as they are, but for what callbacks do. -/
  confined : ∀ (s : TestStep) accessor, s.Addresses b number accessor →
    Confined b (b.take s).1 number
  confinedAll : Confined b (b.take (.resetAll number)).1 number
  unknown : ∀ key : Value, (∀ text, key = .text text → d.stub.method? text = none) →
    b.take (.nested number key) = (b, .error (.unknownKey key.quoted))
  /-- Methods that return no interface hand out nothing. -/
  barren : ∀ key m, d.stub.method? key = some m → m.returnKind.returnsInterface = false →
    b.take (.nested number (.text key)) = (b, .error (.noInterface key))

theorem Asks.mem {outcome : Outcome} (asks : Asks b number d m outcome) : m ∈ d.stub.methods := by
  cases asks with
  | nested found | invoke found _ _ | within _ found _ _ => exact mem_of_method? found

theorem IsServed.handing (arena : t.IsArena) (spelled : t.IsSpelled) (relative : t.IsRelative)
    (served : b.IsServed t lead) (family : b.IsFamily)
    (known : b.double? number = some d) : b.Handing number d where
  hands := by
    intro m returns
    have bound : number < b.doubles.length := (List.getElem?_eq_some_iff.mp known).1
    refine ⟨b.heir number m.accessor, ?younger, fun outcome asks => ?_⟩
    case younger =>
      unfold heir
      cases child : b.child? number m.accessor with
      | none => exact bound
      | some k => exact (family.younger _ _ _ child).1
    obtain ⟨answer, generator, shifts, child⟩ :=
      asks.exists_heir arena spelled relative served known returns
    refine ⟨answer, generator, ?interface, ?lasting⟩
    case interface =>
      have after := shifts.isServed arena spelled relative served
      obtain ⟨d', there, stub⟩ := shifts.moves.double? known
      obtain ⟨e, handed, nested⟩ := after.handed number d' m _ there (stub ▸ asks.mem) child
      rw [handed, nested]
      rfl
    case lasting =>
      intro c later n e m' there returns' outcome' asks'
      have all : Shifts b c := shifts.trans later
      obtain ⟨answer', _, shifts', child'⟩ := asks'.exists_heir arena spelled relative
        (all.isServed arena spelled relative served) there returns'
      refine ⟨_, answer', ?_⟩
      -- Both are handed out in the end, and then tell their methods apart.
      have end_ : Shifts outcome.1 outcome'.1 := later.trans shifts'
      have last := end_.child?_eq child
      have alone := Shifts.isFamily (all.trans shifts') family
      constructor
      · intro same
        rw [same] at child'
        exact alone.alone _ _ _ _ _ child' last
      · rintro ⟨rfl, accessor⟩
        rw [accessor] at child' ⊢
        exact Option.some.inj (child'.symm.trans last)
  confined := fun s accessor addresses => confined_take addresses
  confinedAll := confined_resetAll b number
  unknown := by
    intro key missing
    cases key with
    | text key => exact nested_of_unknown known (missing key rfl)
    | _ => rfl
  barren := by
    intro key m found barren
    obtain ⟨_, _, built⟩ := served.stubs number d known
    have both := (SymbolTable.nested_of_returnKind built (mem_of_method? found)).1
    rw [barren] at both
    exact nested_of_barren known found (by simpa using both.symm)

/-- Whatever has been done on a bench, a method of a double that returns an interface hands out one
double of that interface from the first time that it is asked, without fail and for good, in a table
of which all types in methods have texts for names: where one has none, to build the double that is
handed out may slip. -/
theorem handing_of_shifts {t : SymbolTable} (built : t.Built) (spelled : t.IsSpelled)
    (relative : t.IsRelative) (classification : Option Classification) (lead : Value) :
    let start := empty ⟨t, classification, lead, []⟩
    (∀ demands, Shifts start (start.meetAll demands)) ∧
      ∀ b, Shifts start b → ∀ number d, b.double? number = some d → b.Handing number d := by
  intro start
  refine ⟨shifts_meetAll start, fun b shifts number d known => ?_⟩
  have arena := built.isArena
  have first : start.IsSound t lead := isSound_empty (Generator.isOf_fresh t classification lead)
  obtain ⟨_, _, made⟩ := (shifts.isSound first).stubs number d known
  have led := (SymbolTable.isNamed_of_buildStub made).lead
  -- Without leading words no stub is built, so there are some.
  cases lead with
  | text lead =>
    have served := shifts.isServed arena spelled relative (isServed_empty t classification lead)
    exact served.handing arena spelled relative (shifts.isFamily (isFamily_empty _)) known
  | _ => cases led

/-- An interface that hands out another one by two methods, which hands out itself. -/
def chaining : SymbolTable :=
  let method (name : String) (parameters : List Parameter) : Method String :=
    { name, parameters, returnType := some (.reference (.named "K" false) false), isPure := true
      isConst := false, visibility := .public }
  let declaring (name : String) (methods : List (Method String)) : Declaration String :=
    { name, kind := .interface, bases := [], methods, fields := [], isFull := true, unit := .null }
  (SymbolTable.merge
    [{ name := .null
       declarations :=
         [declaring "I" [method "f" [⟨.primitive "int" false, .null⟩], method "g" []],
          declaring "K" [method "next" []]]
       bodies := [], header := .null }]).1

def chained : Bench :=
  (empty ⟨chaining, none, .text "Stub", []⟩).meetAll
    [.test (.create (.text "I")), .test (.place (.object [("a", .int 1)])),
     .test (.call (.cell 0) (.text "keys") [])]

theorem shifts_chained : Shifts (empty ⟨chaining, none, .text "Stub", []⟩) chained :=
  shifts_meetAll _ _

theorem exists_chained : ∃ d m, chained.double? 0 = some d ∧ d.stub.method? "f" = some m ∧
    m.returnKind.returnsInterface = true ∧ m.arity = 1 ∧ d.IsUnset m ∧
      Kept m.method.parameters [.int 7] chained.heap [.int 7] chained.heap := by
  have facts : ∃ d ∈ chained.doubles, chained.double? 0 = some d ∧
      ∃ m ∈ d.stub.methods, d.stub.method? "f" = some m ∧
        m.returnKind.returnsInterface = true ∧ d.callback? m.accessor = none ∧
          (d.static? m.accessor).map (·.current) = some .nothing ∧
            m.method.parameters = [⟨.primitive "int" false, .null⟩] := by
    decide +kernel
  obtain ⟨d, _, known, m, _, found, returns, callback, static, parameters⟩ := facts
  have unset : d.IsUnset m := by
    refine ⟨callback, fun answer there => ?_⟩
    rw [there] at static
    have current : answer.current = .nothing := Option.some.inj static
    rw [current]
    rfl
  refine ⟨d, m, known, found, returns, congrArg List.length parameters, unset, ?_⟩
  rw [parameters]
  exact .value rfl rfl (.nil _)

theorem isRelative_chaining : chaining.IsRelative := by
  have names : (chaining.declarations.all fun d => (absolute? d.name).isNone) = true := by
    decide +kernel
  intro d declared
  have unmarked := List.all_eq_true.mp names d declared
  exact SymbolTable.absolute?_eq_none.mp (Option.isNone_iff_eq_none.mp unmarked)

/-- A view cannot be copied, so a call that is given one where a copy is kept fails, although nothing
is set for the method. -/
theorem invoke_view_fails :
    Shifts (empty ⟨chaining, none, .text "Stub", []⟩) chained ∧ chaining.IsRelative ∧
      ∃ d m, chained.double? 0 = some d ∧ d.stub.method? "f" = some m ∧
        m.returnKind.returnsInterface = true ∧ d.IsUnset m ∧ [Datum.cell 1].length = m.arity ∧
          (chained.take (.invoke 0 (.text "f") [.cell 1])).2 = .error (.slip .wrongType) := by
  obtain ⟨d, m, known, found, returns, arity, unset, _⟩ := exists_chained
  exact ⟨shifts_chained, isRelative_chaining, d, m, known, found, returns, unset, arity.symm,
    by decide +kernel⟩

/-- The double that a call is answered with is there to be asked for after all has been reset. -/
theorem handing_of_shifts_chained :
    ∃ d m, chained.double? 0 = some d ∧ chained.Handing 0 d ∧ d.stub.method? "f" = some m ∧
      let called := chained.take (.invoke 0 (.text "f") [.int 7])
      let later := (called.1.take (.resetAll 0)).1
      Asks chained 0 d m called ∧ called.2 = .ok (.double 1) ∧
        (∃ e, later.double? 0 = some e ∧
          Asks later 0 e m (later.take (.nested 0 (.text "f")))) ∧
            (later.take (.nested 0 (.text "f"))).2 = .ok (.double 1) := by
  obtain ⟨d, m, known, found, returns, _, unset, keeps⟩ := exists_chained
  have spelled : chaining.IsSpelled := by
    unfold SymbolTable.IsSpelled
    decide +kernel
  have handing : chained.Handing 0 d := (handing_of_shifts (SymbolTable.built_merge _) spelled
    isRelative_chaining none (.text "Stub")).2 chained shifts_chained 0 d known
  refine ⟨d, m, known, handing, found, ?_⟩
  intro called later
  have asks : Asks chained 0 d m called := .invoke found unset keeps
  have first : called.2 = .ok (.double 1) := by decide +kernel
  obtain ⟨k, _, hands⟩ := handing.hands m returns
  obtain ⟨answer, _, _, lasting⟩ := hands called asks
  have shifts : Shifts called.1 later := shifts_take called.1 (.resetAll 0)
  have all : Shifts chained later := (shifts_take chained _).trans shifts
  obtain ⟨e, there, stub⟩ := all.moves.double? known
  have again : Asks later 0 e m (later.take (.nested 0 (.text "f"))) := .nested (stub ▸ found)
  obtain ⟨k', handed, same⟩ := lasting later shifts 0 e m there returns _ again
  rw [same.mpr ⟨rfl, rfl⟩, ← answer, first] at handed
  exact ⟨asks, first, ⟨e, there, again⟩, handed⟩

end Bench
end Understudy
