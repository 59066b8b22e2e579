import Mathlib.Logic.Relation
import Understudy.Double.Step
import Understudy.Proofs.Outcome

/-! The changes of a bench.

However calls lie in each other, and wherever they give up, a bench changes in a few ways only: what
lies beside the doubles changes, a double is added, changes beside its counters, takes a call, or has
counters reset.
-/

set_option autoImplicit false

open Relation (ReflTransGen)

namespace Understudy.Bench

inductive Move (b : Bench) : Bench → Prop where
  | beside (generator : Generator) (heap : Heap) (handles locals : Registry) :
      Move b { b with generator, heap, handles, locals }
  | create (stub : Stub) : Move b { b with doubles := b.doubles ++ [.fresh stub] }
  | alter (number : Nat) {change : Double → Double} :
      (∀ d, (change d).stub = d.stub ∧ (change d).counters = d.counters) →
        Move b (b.update number change)
  | accept {number : Nat} {d : Double} {m : InstrumentedMethod} {args : List Datum} :
      b.double? number = some d → m ∈ d.stub.methods → args.length = m.arity →
        Move b (b.accept number m args).1
  | reset (number : Nat) (space : Space) (key : String) : Move b (b.reset number space key)
  | resetSpace (number : Nat) (space : Space) : Move b (b.resetSpace number space)
  | resetAll (number : Nat) : Move b (b.resetAll number)

abbrev Moves : Bench → Bench → Prop := ReflTransGen Move

/-! ## Changes with all that they do -/

end Bench

/-- A generator answers a name with a stub of which a double can be set up. -/
structure Generator.Yields (g : Generator) (name : String) (after : Generator) (stub : Stub) : Prop where
  generated : g.generate name = (after, .ok stub)
  made : Double.ofStub stub = .ok (.fresh stub)

/-- A space of a double has a slot to which a key leads, or has it under the key itself. -/
def Double.Holds (d : Double) (space : Space) (key : String) : Prop :=
  d.has space key = true ∨ key ∈ d.accessors space

namespace Bench

variable {b c : Bench} {number : Nat}

inductive Shift (b : Bench) : Bench → Prop where
  | beside (heap : Heap) (handles locals : Registry) : Shift b { b with heap, handles, locals }
  | generate (name : String) : Shift b { b with generator := (b.generator.generate name).1 }
  | create {name : String} {generator : Generator} {stub : Stub} :
      b.generator.Yields name generator stub →
        Shift b { b with generator, doubles := b.doubles ++ [.fresh stub] }
  | handOut {number : Nat} {d : Double} {key interface : String} {m : InstrumentedMethod}
      {generator : Generator} {stub : Stub} :
      b.double? number = some d → d.stub.method? key = some m → m.nested = some interface →
        d.nested.get? m.accessor = none → b.generator.Yields interface generator stub →
          Shift b ({ b with generator, doubles := b.doubles ++ [Double.fresh stub] }.update number
            fun d => { d with nested := d.nested.set m.accessor b.doubles.length })
  | mark (number : Nat) (marks : Double → Assoc Datum) :
      Shift b (b.update number fun d => { d with marks := marks d })
  | setStatic (number : Nat) (key : String) (answer : Datum) :
      Shift b (b.update number (·.setStatic key answer))
  | setCallback {number : Nat} {d : Double} {key : String} (callback : Option Callback) :
      b.double? number = some d → d.Holds .callback key →
        Shift b (b.update number (·.setCallback key callback))
  | accept {number : Nat} {d : Double} {m : InstrumentedMethod} {args : List Datum} :
      b.double? number = some d → m ∈ d.stub.methods → args.length = m.arity →
        Shift b (b.accept number m args).1
  | reset {number : Nat} {d : Double} {space : Space} {key : String} :
      b.double? number = some d → d.Holds space key → Shift b (b.reset number space key)
  | resetSpace (number : Nat) (space : Space) : Shift b (b.resetSpace number space)
  | resetAll (number : Nat) : Shift b (b.resetAll number)

abbrev Shifts : Bench → Bench → Prop := ReflTransGen Shift

theorem generator_accept (b : Bench) (number : Nat) (m : InstrumentedMethod) (args : List Datum) :
    (b.accept number m args).1.generator = b.generator := by
  unfold accept record
  split <;> next taken => exact (congrArg (·.1.generator) taken).symm

theorem Shift.generator (shift : Shift b c) :
    c.generator = b.generator ∨ ∃ name, c.generator = (b.generator.generate name).1 := by
  cases shift with
  | generate name => exact .inr ⟨name, rfl⟩
  | create yields => exact .inr ⟨_, (congrArg Prod.fst yields.generated).symm⟩
  | handOut _ _ _ _ yields => exact .inr ⟨_, (congrArg Prod.fst yields.generated).symm⟩
  | accept _ _ _ => exact .inl (b.generator_accept _ _ _)
  | reset _ _ => exact .inl (by cases ‹Space› <;> rfl)
  | resetSpace number space => exact .inl (by cases space <;> rfl)
  | beside | mark | setStatic | setCallback | resetAll => exact .inl rfl

theorem Shift.moves (shift : Shift b c) : Moves b c := by
  cases shift with
  | beside heap handles locals => exact .single (.beside b.generator heap handles locals)
  | generate name => exact .single (.beside _ b.heap b.handles b.locals)
  | @create _ generator stub _ =>
    exact .tail (.single (.beside generator b.heap b.handles b.locals)) (.create stub)
  | @handOut number _ _ _ _ generator stub _ _ _ _ _ =>
    refine .tail (.tail (.single (.beside generator b.heap b.handles b.locals)) (.create stub)) ?_
    exact .alter number fun d => ⟨rfl, rfl⟩
  | mark number marks => exact .single (.alter number fun d => ⟨rfl, rfl⟩)
  | setStatic number key answer =>
    refine .single (.alter number fun d => ?_)
    unfold Double.setStatic
    split <;> exact ⟨rfl, rfl⟩
  | setCallback callback _ _ => exact .single (.alter _ fun d => ⟨rfl, rfl⟩)
  | accept known member arity => exact .single (.accept known member arity)
  | reset _ _ => exact .single (.reset _ _ _)
  | resetSpace number space => exact .single (.resetSpace number space)
  | resetAll number => exact .single (.resetAll number)

theorem Shifts.moves (shifts : Shifts b c) : Moves b c := by
  induction shifts with
  | refl => exact .refl
  | tail _ shift ih => exact ih.trans shift.moves

/-! ## Doubles that a bench sets up -/

inductive Creates (b : Bench) (name : String) : Bench × Except GenerateFault Nat → Prop where
  | refused {fault : GenerateFault} :
      Creates b name ({ b with generator := (b.generator.generate name).1 }, .error fault)
  | made {generator : Generator} {stub : Stub} :
      b.generator.Yields name generator stub →
        Creates b name
          ({ b with generator, doubles := b.doubles ++ [.fresh stub] }, .ok b.doubles.length)

theorem creates_create (b : Bench) (name : String) : Creates b name (b.create name) := by
  have refused {fault : GenerateFault} :
      Creates b name ({ b with generator := (b.generator.generate name).1 }, .error fault) := .refused
  unfold create
  split
  next failed =>
    rw [failed] at refused
    exact refused
  next stub generated =>
    rw [generated] at refused
    split
    · exact refused
    next d made =>
      have fresh : d = .fresh stub := by
        unfold Double.ofStub at made
        split at made
        · cases made
        · exact (Except.ok.inj made).symm
      subst fresh
      exact .made ⟨generated, made⟩

section

variable {d : Double} {m : InstrumentedMethod} {key interface : String}

theorem nested_of_unknown (known : b.double? number = some d)
    (missing : d.stub.method? key = none) :
    b.nested number key = (b, .error (.unknownKey (Text.quoted key))) := by
  rw [nested, known]
  dsimp only
  rw [missing]

theorem nested_of_barren (known : b.double? number = some d)
    (found : d.stub.method? key = some m) (none : m.nested = none) :
    b.nested number key = (b, .error (.noInterface key)) := by
  rw [nested, known]
  dsimp only
  rw [found]
  dsimp only
  rw [none]

theorem nested_of_used {k : Nat} (known : b.double? number = some d)
    (found : d.stub.method? key = some m) (handed : m.nested = some interface)
    (used : d.nested.get? m.accessor = some k) : b.nested number key = (b, .ok (.double k)) := by
  rw [nested, known]
  dsimp only
  rw [found]
  dsimp only
  rw [handed, used]

theorem nested_of_unused (known : b.double? number = some d)
    (found : d.stub.method? key = some m) (handed : m.nested = some interface)
    (unused : d.nested.get? m.accessor = none) :
    b.nested number key =
      match b.create interface with
      | (b, .error fault) => (b, .error (.generate fault))
      | (b, .ok made) =>
        (b.update number fun d => { d with nested := d.nested.set m.accessor made },
          .ok (.double made)) := by
  rw [nested, known]
  dsimp only
  rw [found]
  dsimp only
  rewrite [handed, unused]
  rfl

end

inductive Nests (b : Bench) (number : Nat) (key : String) : Bench → Prop where
  | same : Nests b number key b
  | refused (interface : String) :
      Nests b number key { b with generator := (b.generator.generate interface).1 }
  | made {d : Double} {m : InstrumentedMethod} {interface : String} {generator : Generator}
      {stub : Stub} :
      b.double? number = some d → d.stub.method? key = some m → m.nested = some interface →
        d.nested.get? m.accessor = none → b.generator.Yields interface generator stub →
          Nests b number key
            ({ b with generator, doubles := b.doubles ++ [Double.fresh stub] }.update number
              fun d => { d with nested := d.nested.set m.accessor b.doubles.length })

theorem nests_nested (b : Bench) (number : Nat) (key : String) :
    Nests b number key (b.nested number key).1 := by
  unfold nested
  split
  · exact .same
  next d known =>
    split
    · exact .same
    next m found =>
      split
      · exact .same
      · exact .same
      next interface handed missing =>
        have created := creates_create b interface
        generalize b.create interface = outcome at created ⊢
        cases created with
        | refused => exact .refused interface
        | made yields => exact .made known found handed missing yields

theorem nests_fallBack (b : Bench) (number : Nat) (m : InstrumentedMethod) :
    Nests b number m.accessor (b.fallBack number m).1 := by
  unfold fallBack
  split
  · exact .same
  · split
    · exact .same
    · split
      · exact nests_nested b number m.accessor
      · exact .same

theorem turnFrom_space {name : String} {space : Space} {e : Exhibit}
    (named : Space.ofName? name = some space)
    (shown : b.turnFrom (.datum (.double number)) (.attribute name) = .ok e) :
    e = .space number space ∧ ∃ d, b.double? number = some d := by
  simp only [turnFrom, attributeOf] at shown
  split at shown
  next d known =>
    refine ⟨?_, d, known⟩
    -- The three names are those of fixed places in the table of what a double keeps.
    unfold Space.ofName? at named
    split at named <;> cases named <;> cases shown <;> rfl
  next => cases shown

theorem holds_of_spaceItem {d : Double} {space : Space} {key : String} {e : Exhibit}
    (shown : spaceItem d space (.plain (.text key)) = .ok e) : d.Holds space key := by
  unfold spaceItem at shown
  obtain ⟨accessor, located, _⟩ := exists_of_bind_eq_ok shown
  unfold Double.locate at located
  dsimp only at located
  split at located
  next there => exact .inl there
  next => cases located

theorem holds_of_spaceAttribute {d : Double} {space : Space} {owner : Exhibit} {name : String}
    {kind : RecordKind} {parts hidden derived : List (String × Exhibit)}
    {text : Option (Except Slip String)}
    (shown : spaceAttribute d space owner name = .ok (.record kind parts hidden derived text)) :
    d.Holds space name := by
  unfold spaceAttribute at shown
  dsimp only at shown
  split at shown
  · cases shown
  · cases shown
  · cases shown
  · cases shown
  next =>
    cases reflected : Exhibit.reflection? liveHome "AccessorNamespace" owner name with
    | some e =>
      -- What a space tells of itself is no record.
      rw [reflected] at shown
      cases shown
      unfold Exhibit.reflection? at reflected
      split at reflected <;> try cases reflected
      all_goals split at reflected <;> cases reflected
    | none =>
      rw [reflected] at shown
      dsimp only at shown
      split at shown
      · cases shown
      · obtain ⟨accessor, located, _⟩ := exists_of_bind_eq_ok shown
        unfold Double.locate at located
        dsimp only at located
        split at located
        · cases located
        · split at located
          · cases located
          next there =>
            have both := not_or.mp (mt Bool.or_eq_true_iff.mpr there)
            exact .inl (by simpa using both.2)

theorem mem_accessors_of_slotsIn {d : Double} {space : Space} {key : String} {e : Exhibit}
    (there : Assoc.get? (d.slotsIn space) key = some e) : key ∈ d.accessors space := by
  have listed : key ∈ Assoc.keys (d.slotsIn space) :=
    Assoc.mem_keys.mpr (Option.isSome_iff_exists.mpr ⟨e, there⟩)
  have same : Assoc.keys (d.slotsIn space) = d.accessors space := by
    cases space <;> simp [Double.slotsIn, Double.accessors, Assoc.keys, Function.comp_def]
  rwa [same] at listed

theorem holds_of_slotOnWay? {way : List Turn} {kind : RecordKind}
    {parts hidden derived : List (String × Exhibit)} {text : Option (Except Slip String)}
    {space : Space} {key : String} (leads : slotOnWay? way = some (space, key))
    (shown : b.exhibit (.kept number way) = .ok (.record kind parts hidden derived text)) :
    ∃ d, b.double? number = some d ∧ d.Holds space key := by
  unfold slotOnWay? at leads
  -- By its accessor, as an attribute, or in the table of all slots.
  split at leads
  next owned accessor =>
    obtain ⟨_, named, pair⟩ := Option.map_eq_some_iff.mp leads
    cases pair
    obtain ⟨_, first, rest⟩ := exists_of_bind_eq_ok shown
    obtain ⟨_, last, done⟩ := exists_of_bind_eq_ok rest
    obtain ⟨rfl, d, known⟩ := turnFrom_space named first
    simp only [turnFrom, itemOf, known] at last
    exact ⟨d, known, holds_of_spaceItem last⟩
  next owned accessor =>
    obtain ⟨_, named, pair⟩ := Option.map_eq_some_iff.mp leads
    cases pair
    obtain ⟨_, first, rest⟩ := exists_of_bind_eq_ok shown
    obtain ⟨_, last, done⟩ := exists_of_bind_eq_ok rest
    cases done
    obtain ⟨rfl, d, known⟩ := turnFrom_space named first
    simp only [turnFrom, attributeOf, known] at last
    exact ⟨d, known, holds_of_spaceAttribute last⟩
  next owned accessor =>
    obtain ⟨_, named, pair⟩ := Option.map_eq_some_iff.mp leads
    cases pair
    obtain ⟨_, first, rest⟩ := exists_of_bind_eq_ok shown
    obtain ⟨_, table, rest⟩ := exists_of_bind_eq_ok rest
    obtain ⟨_, last, done⟩ := exists_of_bind_eq_ok rest
    obtain ⟨rfl, d, known⟩ := turnFrom_space named first
    simp only [turnFrom, attributeOf, known] at table
    cases table
    simp only [turnFrom, itemOf] at last
    split at last
    next there => exact ⟨d, known, .inr (mem_accessors_of_slotsIn there)⟩
    next => cases last
  next => cases leads

theorem mem_accessors_of_locateGiven {d : Double} {space : Space} {access : Double.Access}
    {key : Value} {accessor : String} (located : d.locateGiven space access key = .ok accessor) :
    accessor ∈ d.accessors space := by
  refine List.contains_iff_mem.mp ?_
  unfold Double.locateGiven Double.locate at located
  split at located
  · split at located
    · split at located
      next there =>
        cases located
        exact there
      next => cases located
    · split at located
      · cases located
      · split at located
        · cases located
        next there =>
          cases located
          have both := not_or.mp (mt Bool.or_eq_true_iff.mpr there)
          simpa [Double.has] using both.2
  · cases located
  · cases located

end Bench

theorem Stub.slotKey_accessor {s : Stub} {m : InstrumentedMethod} (member : m ∈ s.methods) :
    s.slotKey m.accessor = m.accessor := by
  have known : s.methods.any (·.accessor == m.accessor) = true :=
    List.any_eq_true.mpr ⟨m, member, beq_self_eq_true _⟩
  rw [slotKey, if_pos known]

theorem Stub.slotKey_slotKey (s : Stub) (key : String) :
    s.slotKey (s.slotKey key) = s.slotKey key := by
  by_cases known : s.methods.any (·.accessor == key) = true
  · rw [show s.slotKey key = key by rw [slotKey, if_pos known]]
    rw [slotKey, if_pos known]
  · cases aliased : s.methods.reverse.find? (·.mangled == key) with
    | none =>
      have itself : s.slotKey key = key := by rw [slotKey, if_neg known, aliased]; rfl
      rw [itself, itself]
    | some m =>
      have meant : s.slotKey key = m.accessor := by rw [slotKey, if_neg known, aliased]; rfl
      rw [meant]
      exact slotKey_accessor (List.mem_reverse.mp (List.mem_of_find?_eq_some aliased))

theorem Double.slotKey_of_locateGiven {d : Double} {space : Space} {access : Double.Access}
    {key : Value} {accessor : String} (located : d.locateGiven space access key = .ok accessor) :
    d.stub.slotKey accessor = accessor := by
  unfold locateGiven locate at located
  split at located
  · split at located
    · split at located
      · cases located
        exact Stub.slotKey_slotKey _ _
      · cases located
    · split at located
      · cases located
      · split at located
        · cases located
        · cases located
          exact Stub.slotKey_slotKey _ _
  · cases located
  · cases located

namespace Bench

variable {b c : Bench} {number : Nat}

/-! ## Invocations -/

theorem mem_of_method? {s : Stub} {key : String} {m : InstrumentedMethod}
    (found : s.method? key = some m) : m ∈ s.methods := by
  rcases Option.or_eq_some_iff.mp found with named | ⟨_, named⟩
  · exact List.mem_of_find?_eq_some named
  · exact List.mem_of_find?_eq_some named

theorem Shift.of_accept {d : Double} {m : InstrumentedMethod} {args : List Datum}
    {result : Except Slip Unit} (known : b.double? number = some d) (member : m ∈ d.stub.methods)
    (arity : args.length = m.arity) (taken : b.accept number m args = (c, result)) : Shift b c := by
  have shift : Shift b (b.accept number m args).1 := .accept known member arity
  rwa [taken] at shift

/-- What an invocation of a method comes to. -/
inductive Invokes (b : Bench) (number : Nat) (d : Double) (m : InstrumentedMethod)
    (args : List Datum) (fuel : Nat) : Outcome → Prop where
  | refused : args.length ≠ m.arity →
      Invokes b number d m args fuel
        (b, .error (.wrongArity d.stub.interface m.name m.arity args.length))
  | lost {between : Bench} {slip : Slip} : args.length = m.arity →
      b.accept number m args = (between, .error slip) →
        Invokes b number d m args fuel (between.slipping slip)
  | handed {between after : Bench} {callback : Callback} {result : Except CallFault Datum} :
      args.length = m.arity → b.accept number m args = (between, .ok ()) →
        d.callback? m.accessor = some callback →
          between.handOver (invokeWith fuel) number m.accessor args callback = (after, result) →
            Invokes b number d m args fuel
              (after, if m.isVoid then result.map fun _ => .nothing else result)
  | answered {between : Bench} : args.length = m.arity →
      b.accept number m args = (between, .ok ()) → d.callback? m.accessor = none →
        Invokes b number d m args fuel (between.fallBack number m)

theorem invokes_invokeWith {d : Double} {m : InstrumentedMethod} {key : String}
    (known : b.double? number = some d) (found : d.stub.method? key = some m) (args : List Datum)
    (fuel : Nat) : Invokes b number d m args fuel (invokeWith (fuel + 1) b number key args) := by
  rw [invokeWith, known]
  dsimp only
  rw [found]
  dsimp only
  split
  next arity =>
    split
    next lost => exact .lost arity lost
    next callback taken set_ => exact .handed arity taken set_ rfl
    next taken unset => exact .answered arity taken unset
  next mismatch => exact .refused mismatch

end Understudy.Bench
