import Understudy.Proofs.Double.Counting
import Understudy.Proofs.Double.Noting
import Understudy.Proofs.Stub.Accessors

/-! What a step of a test leaves alone.

A counter is decided by the journal, so what does not touch it there leaves it as it is. A step that
is addressed to one method of one double notes that method only, until it hands over to a callback.
-/

set_option autoImplicit false

namespace Understudy

open Understudy.Cpp

/-! ## Counters by their journal -/

theorem Kept.length_eq {params : List Parameter} {args kept : List Datum} {h after : Heap}
    (keeps : Kept params args h kept after) : args.length = params.length := by
  induction keeps with
  | nil _ => rfl
  | reference _ _ ih | value _ _ _ ih => simp [ih]

theorem Entry.Keeps.unique {e : Entry} {kept kept' : List Datum} (keeps : e.Keeps kept)
    (keeps' : e.Keeps kept') : kept = kept' := by
  cases e with
  | call number m args h =>
    obtain ⟨after, first⟩ := keeps
    obtain ⟨after', second⟩ := keeps'
    have ran := (Bench.keep_eq_ok first.length_eq).mpr first
    rw [(Bench.keep_eq_ok second.length_eq).mpr second] at ran
    cases ran
    rfl
  | reset _ _ | resetAll _ => cases keeps

theorem Entry.last_keeping_unique {before before' after after' : List Entry} {e e' : Entry}
    {kept kept' : List Datum} (same : before ++ e :: after = before' ++ e' :: after')
    (keeps : e.Keeps kept) (keeps' : e'.Keeps kept')
    (later : ∀ x ∈ after, ∀ params, ¬ x.Keeps params)
    (later' : ∀ x ∈ after', ∀ params, ¬ x.Keeps params) : kept = kept' := by
  -- If the cuts differ, the later entry lies behind the earlier one, where none keeps arguments.
  rcases List.append_eq_append_iff.mp same with ⟨middle, _, split⟩ | ⟨middle, _, split⟩
  · cases middle with
    | nil =>
      cases split
      exact keeps.unique keeps'
    | cons x middle =>
      cases split
      exact absurd keeps' (later e' (by simp) kept')
  · cases middle with
    | nil =>
      cases split
      exact keeps.unique keeps'
    | cons x middle =>
      cases split
      exact absurd keeps (later' e (by simp) kept)

theorem Counter.Tells.unique {c c' : Counter} {calls : List Entry} (tells : c.Tells calls)
    (tells' : c'.Tells calls) : c = c' := by
  obtain ⟨count, params⟩ := c
  obtain ⟨count', params'⟩ := c'
  have counts : count = count' := tells.count.trans tells'.count.symm
  have same : params = params' := by
    rcases tells.params with ⟨none, empty⟩ | ⟨before, e, after, split, keeps, later⟩
    · rcases tells'.params with ⟨_, empty'⟩ | ⟨before', e', after', split', keeps', _⟩
      · exact empty.trans empty'.symm
      · exact absurd keeps' (none e' (by simp [split']) _)
    · rcases tells'.params with ⟨none, _⟩ | ⟨before', e', after', split', keeps', later'⟩
      · exact absurd keeps (none e (by simp [split]) _)
      · exact Entry.last_keeping_unique (split.symm.trans split') keeps keeps' later later'
  rw [counts, same]

namespace Bench

variable {b c : Bench} {number : Nat} {d : Double} {m : InstrumentedMethod}

theorem Move.double? (move : Move b c) (known : b.double? number = some d) :
    ∃ after, c.double? number = some after ∧ after.stub = d.stub := by
  have updated (n : Nat) {change : Double → Double} (stubs : ∀ d, (change d).stub = d.stub) :
      ∃ after, (b.update n change).double? number = some after ∧ after.stub = d.stub := by
    by_cases same : number = n
    · subst same
      exact ⟨change d, by rw [double?_update_self, known]; rfl, stubs d⟩
    · exact ⟨d, by rw [double?_update_ne b change (Ne.symm same), known], rfl⟩
  cases move with
  | beside _ _ _ _ => exact ⟨d, known, rfl⟩
  | create stub =>
    refine ⟨d, ?_, rfl⟩
    rw [double?, List.getElem?_append_left (List.getElem?_eq_some_iff.mp known).1]
    exact known
  | alter n beside => exact updated n fun d => (beside d).1
  | @accept n _ m args _ _ arity =>
    rcases accept_cases b n m arity with ⟨_, _, _, ran⟩ | ⟨_, _, _, ran⟩
    · rw [ran]
      exact updated n fun d => rfl
    · rw [ran]
      exact updated n fun d => rfl
  | reset n space key =>
    have stubs (d : Double) : (d.reset space key).stub = d.stub := by
      cases space with
      | counter | callback => rfl
      | static =>
        unfold Double.reset Double.setStatic
        dsimp only
        split
        · split <;> rfl
        · rfl
    cases space <;> exact updated n stubs
  | resetSpace n space => cases space <;> exact updated n fun d => rfl
  | resetAll n => exact updated n fun d => rfl

theorem Moves.double? (moves : Moves b c) (known : b.double? number = some d) :
    ∃ after, c.double? number = some after ∧ after.stub = d.stub := by
  induction moves with
  | refl => exact ⟨d, known, rfl⟩
  | tail _ move ih =>
    obtain ⟨between, there, same⟩ := ih
    obtain ⟨after, last, stub⟩ := move.double? there
    exact ⟨after, last, stub.trans same⟩

theorem Moves.counter?_eq (moves : Moves b c) (counted : b.IsCounted)
    (known : b.double? number = some d) (member : m ∈ d.stub.methods) {rest : List Entry}
    (grown : c.journal = b.journal ++ rest)
    (untouched : ∀ e ∈ rest, e.touches number m.accessor = false) :
    (c.double? number).bind (·.counter? m.accessor) = d.counter? m.accessor := by
  -- Counters before and after say the same of the journal, and only one counter does.
  obtain ⟨after, there, stub⟩ := moves.double? known
  obtain ⟨before, first, told⟩ := counted.counters number d known m member
  obtain ⟨now, last, tells⟩ := (moves.isCounted counted).counters number after there m
    (stub ▸ member)
  rw [grown, standing_append untouched] at tells
  rw [there, Option.bind_some, last, first, told.unique tells]

/-! ## What a step notes -/

theorem journal_accept (b : Bench) (number : Nat) (m : InstrumentedMethod) {args : List Datum}
    (arity : args.length = m.arity) :
    (b.accept number m args).1.journal = b.journal ++ [.call number m args b.heap] := by
  rcases accept_cases b number m arity with ⟨_, _, _, ran⟩ | ⟨_, _, _, ran⟩ <;>
    rw [ran] <;> rfl

theorem journal_of_accept {args : List Datum} {result : Except Slip Unit}
    (arity : args.length = m.arity) (taken : b.accept number m args = (c, result)) :
    c.journal = b.journal ++ [.call number m args b.heap] := by
  have noted := journal_accept b number m arity
  rwa [taken] at noted

end Bench

/-- The method of a double to which a step is addressed, by its accessor. -/
inductive TestStep.Addresses (b : Bench) : TestStep → Nat → String → Prop where
  | invoke {number : Nat} {d : Double} {key : String} {m : InstrumentedMethod} {args : List Datum} :
      b.double? number = some d → d.stub.method? key = some m →
        Addresses b (.invoke number (.text key) args) number m.accessor
  /-- A method is called by its name where nothing else has that name. -/
  | call {number : Nat} {d : Double} {name : String} {m : InstrumentedMethod} {args : List Datum} :
      b.double? number = some d → d.marks.get? name = none → OwnMember.ofName? name = none →
        Member.common? b.label (.double number) name = none → Bench.certainMethods d name = .ok () →
          (d.stub.methodsNamed name).filter (·.arity == args.length) = [m] →
            Addresses b (.call (.double number) (.text name) args) number m.accessor
  | nested {number : Nat} {d : Double} {key : String} {m : InstrumentedMethod} :
      b.double? number = some d → d.stub.method? key = some m →
        Addresses b (.nested number (.text key)) number m.accessor
  | setStatic {number : Nat} {d : Double} {access : Double.Access} {key : Value} {answer : Datum}
      {accessor : String} :
      b.double? number = some d → d.locateGiven .static access key = .ok accessor →
        Addresses b (.setStatic number access key answer) number accessor
  | setCallback {number : Nat} {d : Double} {access : Double.Access} {key : Value}
      {callback : Option Callback} {accessor : String} :
      b.double? number = some d → d.locateGiven .callback access key = .ok accessor →
        Addresses b (.setCallback number access key callback) number accessor
  | reset {number : Nat} {d : Double} {space : Space} {access : Double.Access} {key : Value}
      {accessor : String} :
      b.double? number = some d → d.locateGiven space access key = .ok accessor →
        Addresses b (.reset number space access key) number accessor

namespace Bench

variable {b c : Bench} {number : Nat} {d : Double} {m : InstrumentedMethod} {accessor : String}

/-- No counter has changed but the one under an accessor of a double. -/
def LeavesOthers (b c : Bench) (number : Nat) (accessor : String) : Prop :=
  ∀ n d m, b.double? n = some d → m ∈ d.stub.methods → (n ≠ number ∨ m.accessor ≠ accessor) →
    (c.double? n).bind (·.counter? m.accessor) = d.counter? m.accessor

theorem LeavesOthers.refl (b : Bench) (number : Nat) (accessor : String) :
    LeavesOthers b b number accessor := by
  intro n d m known _ _
  rw [known, Option.bind_some]

theorem Moves.leavesOthers (moves : Moves b c) (counted : b.IsCounted) {rest : List Entry}
    (grown : c.journal = b.journal ++ rest)
    (own : ∀ e ∈ rest, ∀ n a, e.touches n a = true → n = number ∧ a = accessor) :
    LeavesOthers b c number accessor := by
  intro n d m known member apart
  refine moves.counter?_eq counted known member grown fun e listed => ?_
  refine Bool.eq_false_iff.mpr fun touched => ?_
  obtain ⟨sameNumber, sameAccessor⟩ := own e listed n m.accessor touched
  exact apart.elim (absurd sameNumber) (absurd sameAccessor)

/-- A step changes no counter but one before it hands over, if at all, to the callback that is set
under that accessor. -/
def Isolated (b after : Bench) (number : Nat) (accessor : String) : Prop :=
  ∃ between, Moves b between ∧ LeavesOthers b between number accessor ∧
    (after = between ∨
      ∃ d callback args fuel, b.double? number = some d ∧ d.callback? accessor = some callback ∧
        after = (between.handOver (invokeWith fuel) number accessor args callback).1)

theorem isolated_invokeWith (counted : b.IsCounted) (known : b.double? number = some d)
    {key : String} (found : d.stub.method? key = some m) (args : List Datum) (fuel : Nat) :
    Isolated b (invokeWith fuel b number key args).1 number m.accessor := by
  cases fuel with
  | zero => exact ⟨b, .refl, .refl b number m.accessor, .inl rfl⟩
  | succ fuel =>
    have ran := invokes_invokeWith known found args fuel
    have accepted {between : Bench} {result : Except Slip Unit} (arity : args.length = m.arity)
        (taken : b.accept number m args = (between, result)) : Moves b between :=
      (Shift.of_accept known (mem_of_method? found) arity taken).moves
    have own : ∀ e ∈ [Entry.call number m args b.heap], ∀ n a, e.touches n a = true →
        n = number ∧ a = m.accessor := by
      intro e listed n a touched
      rw [List.mem_singleton.mp listed] at touched
      simp only [Entry.touches, Entry.resets, Entry.calls, Bool.false_or, Bool.and_eq_true,
        beq_iff_eq] at touched
      exact ⟨touched.1.symm, touched.2.symm⟩
    generalize invokeWith (fuel + 1) b number key args = outcome at ran ⊢
    cases ran with
    | refused _ => exact ⟨b, .refl, .refl b number m.accessor, .inl rfl⟩
    | lost arity lost =>
      have moves := accepted arity lost
      exact ⟨_, moves, moves.leavesOthers counted (journal_of_accept arity lost) own, .inl rfl⟩
    | @handed between _ callback _ arity taken set_ handed =>
      have moves := accepted arity taken
      exact ⟨between, moves, moves.leavesOthers counted (journal_of_accept arity taken) own,
        .inr ⟨d, callback, args, fuel, known, set_, by rw [handed]⟩⟩
    | @answered between arity taken _ =>
      have moves : Moves b (between.fallBack number m).1 :=
        (accepted arity taken).trans (nests_fallBack between number m).quietly.shifts.moves
      have noted := (nests_fallBack between number m).quietly.journal.trans (journal_of_accept arity taken)
      exact ⟨_, moves, moves.leavesOthers counted noted own, .inl rfl⟩

theorem take_call_of_candidates {name : String} {args : List Datum}
    (known : b.double? number = some d) (unmarked : d.marks.get? name = none)
    (plain : OwnMember.ofName? name = none)
    (common : Member.common? b.label (.double number) name = none)
    (certain : certainMethods d name = .ok ())
    (chosen : (d.stub.methodsNamed name).filter (·.arity == args.length) = [m]) :
    b.take (.call (.double number) (.text name) args) =
      invokeWith (b.depth args) b number m.accessor args := by
  have beside (means : Means) : b.callDouble? means (.double number) number name args = none := by
    rw [callDouble?, plain]
    simp [common]
  simp only [take, callHeld, callNamed, callWith, known, unmarked, beside, certain, dispatch,
    Option.map_some, Option.getD_some, chosen]
  rfl

theorem isolated_take (counted : b.IsCounted) {s : TestStep}
    (addresses : s.Addresses b number accessor) :
    Isolated b (b.take s).1 number accessor := by
  have moves := (shifts_take b s).moves
  have silent (same : (b.take s).1.journal = b.journal) :
      Isolated b (b.take s).1 number accessor :=
    ⟨_, moves, moves.leavesOthers counted (by rw [same, List.append_nil]) (by simp), .inl rfl⟩
  cases addresses with
  | invoke known found => exact isolated_invokeWith counted known found _ _
  | @call number d name m args known unmarked plain common certain chosen =>
    have member : m ∈ d.stub.methods := by
      have listed : m ∈ (d.stub.methodsNamed name).filter (·.arity == args.length) := by
        rw [chosen]
        exact List.mem_singleton_self m
      exact (List.mem_filter.mp (List.mem_filter.mp listed).1).1
    obtain ⟨first, _, found, same⟩ := Stub.exists_method?_accessor member
    have called := take_call_of_candidates known unmarked plain common certain chosen
    rw [called, ← same]
    exact isolated_invokeWith counted known (same.symm ▸ found) args _
  | nested known found => exact silent (nests_nested b number _).quietly.journal
  | setStatic known located =>
    refine silent ?_
    simp only [take, atSlot, known, located]
    rfl
  | setCallback known located =>
    refine silent ?_
    simp only [take, atSlot, known, located]
    rfl
  | @reset _ d space access key _ known located =>
    have done : (b.take (.reset number space access key)).1 = b.reset number space accessor := by
      simp only [take, atSlot, known, located]
    cases space with
    | counter =>
      have noted : (b.take (.reset number .counter access key)).1.journal =
          b.journal ++ [.reset number accessor] := by
        rw [done]
        simp [reset, known, note, update, Double.slotKey_of_locateGiven located]
      refine ⟨_, moves, moves.leavesOthers counted noted ?_, .inl rfl⟩
      intro e listed n a touched
      rw [List.mem_singleton.mp listed] at touched
      simp only [Entry.touches, Entry.resets, Entry.calls, Bool.or_false, Bool.and_eq_true,
        beq_iff_eq] at touched
      exact ⟨touched.1.symm, touched.2.symm⟩
    -- The journal has the resets of counters only.
    | callback | static =>
      refine silent ?_
      rw [done]
      rfl

/-! ## Whole runs -/

/-- What is noted when a method is invoked: the call, if it passes the check of its arguments, and
then what the callback notes that is set, if the arguments could be kept for it. -/
inductive Notes (b : Bench) (number : Nat) (d : Double) (m : InstrumentedMethod)
    (args : List Datum) (fuel : Nat) : Bench → Prop where
  | refused : args.length ≠ m.arity → Notes b number d m args fuel b
  | unheard {after : Bench} : args.length = m.arity →
      after.journal = b.journal ++ [.call number m args b.heap] →
        (d.callback? m.accessor = none ∨ ∀ kept, ¬ (Entry.call number m args b.heap).Keeps kept) →
          Notes b number d m args fuel after
  | handed {between : Bench} {callback : Callback} {kept : List Datum} : args.length = m.arity →
      Moves b between → between.journal = b.journal ++ [.call number m args b.heap] →
        (Entry.call number m args b.heap).Keeps kept → d.callback? m.accessor = some callback →
          Notes b number d m args fuel
            (between.handOver (invokeWith fuel) number m.accessor args callback).1

theorem notes_invokeWith (known : b.double? number = some d) {key : String}
    (found : d.stub.method? key = some m) (args : List Datum) (fuel : Nat) :
    b.Notes number d m args fuel (invokeWith (fuel + 1) b number key args).1 := by
  have ran := invokes_invokeWith known found args fuel
  generalize invokeWith (fuel + 1) b number key args = outcome at ran ⊢
  cases ran with
  | refused mismatch => exact .refused mismatch
  | lost arity lost =>
    rcases accept_cases b number m arity with ⟨_, _, unkept, _⟩ | ⟨_, _, _, kept⟩
    · exact .unheard arity (journal_of_accept arity lost) (.inr unkept)
    · rw [kept] at lost
      cases lost
  | @handed between after callback _ arity taken set_ handed =>
    rcases accept_cases b number m arity with ⟨_, _, _, lost⟩ | ⟨heap, _, keeps, _⟩
    · rw [lost] at taken
      cases taken
    · have moves : Moves b between :=
        (Shift.of_accept known (mem_of_method? found) arity taken).moves
      rw [← show _ = after from congrArg Prod.fst handed]
      exact .handed arity moves (journal_of_accept arity taken) ⟨heap, keeps⟩ set_
  | @answered between arity taken unset =>
    have noted := (nests_fallBack between number m).quietly.journal
    exact .unheard arity (noted.trans (journal_of_accept arity taken)) (.inl unset)

/-- An entry is noted, and is all that befalls the counters. -/
structure Befalls (e : Entry) (b after : Bench) : Prop where
  noted : after.journal = b.journal ++ [e]
  fresh : ∀ number d m, after.double? number = some d → m ∈ d.stub.methods →
    e.resets number m.accessor = true → d.counter? m.accessor = some .fresh
  others : ∀ number d m, b.double? number = some d → m ∈ d.stub.methods →
    e.touches number m.accessor = false →
      (after.double? number).bind (·.counter? m.accessor) = d.counter? m.accessor

theorem Moves.befalls {e : Entry} (moves : Moves b c) (counted : b.IsCounted)
    (noted : c.journal = b.journal ++ [e]) : Befalls e b c where
  noted := noted
  fresh := by
    intro number d m known member resets
    obtain ⟨counter, there, tells⟩ := (moves.isCounted counted).counters number d known m member
    rw [noted, standing_concat, if_pos resets] at tells
    rw [there, tells.unique Counter.tells_fresh]
  others := by
    intro number d m known member untouched
    refine moves.counter?_eq counted known member noted fun other listed => ?_
    rw [List.mem_singleton.mp listed, untouched]

/-- What is known of counters and journal at a point of a run and of the step that comes next. -/
structure CountsCalls (b : Bench) : Prop where
  told : ∀ number d m, b.double? number = some d → m ∈ d.stub.methods →
    ∃ c, d.counter? m.accessor = some c ∧ c.Tells (standing b.journal number m.accessor)
  isolated : ∀ (s : TestStep) number accessor, s.Addresses b number accessor →
    Isolated b (b.take s).1 number accessor
  invoked : ∀ number d key m args fuel, b.double? number = some d → d.stub.method? key = some m →
    b.Notes number d m args fuel (invokeWith (fuel + 1) b number key args).1
  unknown : ∀ number key args fuel, (b.double? number).bind (·.stub.method? key) = none →
    (invokeWith fuel b number key args).1 = b
  handed : ∀ fuel number method args callback,
    Comes (invokeWith fuel) (b.HandedOver method args callback) b
      (b.handOver (invokeWith fuel) number method args callback).1
  handedReset : ∀ fuel number method args callback e, b.CallbackResets method args e callback →
    Befalls e b (b.handOver (invokeWith fuel) number method args callback).1
  invokes : ∀ number key args, ∃ fuel,
    b.take (.invoke number (.text key) args) = invokeWith (fuel + 1) b number key args
  calls : ∀ d name args, ∃ fuel, Comes (invokeWith (fuel + 1)) (b.Named d name args) b
    (b.take (.call d (.text name) args)).1
  resets : ∀ (s : TestStep) e, s.Resets b e → Befalls e b (b.take s).1
  silent : ∀ s : TestStep, ¬ s.Calls → (∀ e, ¬ s.Resets b e) → (b.take s).1.journal = b.journal

theorem depth_eq_succ (b : Bench) (args : List Datum) : ∃ fuel, b.depth args = fuel + 1 :=
  Nat.exists_eq_succ_of_ne_zero (Nat.mul_ne_zero (Nat.succ_ne_zero _) (Nat.succ_ne_zero _))

/-- Whatever a test does on a bench, at every point of it a counter says how often its method was
invoked since its last reset, and what was kept of the arguments of the last invocation of which all
could be kept. Every invocation that passes the check of its arguments is noted once and before all
that it calls, every reset is noted once and leaves its counters fresh, and nothing else is noted.
Steps that are addressed to one method change no other counter, except through what the callback
does that they hand over to. -/
theorem counters_follow_journal (generator : Generator) :
    (∀ steps, Moves (empty generator) ((empty generator).run steps)) ∧
      ∀ b, Moves (empty generator) b → b.CountsCalls := by
  refine ⟨fun steps => (shifts_run _ steps).moves, fun b moves => ?_⟩
  have counted := moves.isCounted (isCounted_empty generator)
  exact {
    told := fun number d m known member => counted.counters number d known m member
    isolated := fun s number accessor addresses => isolated_take counted addresses
    invoked := fun number d key m args fuel known found => notes_invokeWith known found args fuel
    unknown := fun number key args fuel missing => fst_invokeWith_of_missing missing args fuel
    handed := fun fuel number method args callback =>
      comes_handOver (invokeWith fuel) b number method args callback
    handedReset := fun fuel number method args callback e resets =>
      (shifts_handOver b fuel number method args callback).moves.befalls counted
        (journal_handOver resets)
    invokes := fun number key args => by
      obtain ⟨fuel, deep⟩ := depth_eq_succ b args
      exact ⟨fuel, by rw [← deep]; rfl⟩
    calls := fun d name args => by
      obtain ⟨fuel, deep⟩ := depth_eq_succ b args
      exact ⟨fuel, deep ▸ comes_callHeld b d name args⟩
    resets := fun s e resets => (shifts_take b s).moves.befalls counted (journal_take resets)
    silent := fun s calls resets => (quietly_take calls resets).journal }

/-- What a counter would say if all arguments could be kept. -/
def TellsLast (c : Counter) (calls : List Entry) : Prop :=
  c.calls = calls.length ∧
    (calls = [] ∧ c.params = [] ∨ ∃ before e, calls = before ++ [e] ∧ e.Keeps c.params)

def keepsAll : Entry → Bool
  | .call _ m args h => ((keep m.method.parameters args).run.run h).1.isOk
  | .reset .. | .resetAll _ => false

theorem keepsAll_of_keeps {e : Entry} {kept : List Datum} (keeps : e.Keeps kept) :
    keepsAll e = true := by
  cases e with
  | call number m args h =>
    obtain ⟨after, copied⟩ := keeps
    rw [keepsAll, (keep_eq_ok copied.length_eq).mpr copied]
    rfl
  | reset _ _ | resetAll _ => cases keeps

def countable : Generator :=
  let method (name : String) (parameters : List Parameter) : Method String :=
    { name, parameters, returnType := some (.primitive "int" false), isPure := true
      isConst := false, visibility := .public }
  let declaring (name : String) (methods : List (Method String)) : Declaration String :=
    { name, kind := .interface, bases := [], methods, fields := [], isFull := true, unit := .null }
  { table := (SymbolTable.merge
      [{ name := .null
         declarations :=
           [declaring "I" [method "f" [⟨.primitive "int" false, .null⟩]],
            declaring "K" [method "stub_reset_all" []]]
         bodies := [], header := .null }]).1
    classification := none, lead := .text "Stub", memo := [] }

def viewPassed : Bench :=
  (empty countable).run
    [.create (.text "I"), .place (.object [("a", .int 1)]),
     .call (.cell 0) (.text "keys") [],
     .invoke 0 (.text "f") [.int 7], .invoke 0 (.text "f") [.cell 1]]

/-- The callback of one double is another double that has taken a call. -/
def listening : Bench :=
  (empty countable).run
    [.create (.text "K"), .create (.text "I"), .invoke 1 (.text "f") [.int 7],
     .setCallback 0 .item (.text "stub_reset_all") (some (.datum (.double 1)))]

theorem addresses_listening :
    TestStep.Addresses listening (.invoke 0 (.text "stub_reset_all") []) 0 "stub_reset_all" := by
  have stub : (listening.double? 0).map (fun d => (d.stub.method? "stub_reset_all").map
      (·.accessor)) = some (some "stub_reset_all") := by
    decide +kernel
  obtain ⟨d, known, method⟩ := Option.map_eq_some_iff.mp stub
  obtain ⟨m, found, named⟩ := Option.map_eq_some_iff.mp method
  have addressed : TestStep.Addresses listening (.invoke 0 (.text "stub_reset_all") []) 0
      m.accessor := .invoke known found
  rwa [named] at addressed

/-- What cannot be copied is counted and not kept, and a callback may reset the counters of another
double without invoking anything. -/
theorem counters_behind_calls :
    (∃ d m, viewPassed.double? 0 = some d ∧ m ∈ d.stub.methods ∧
      ¬ ∃ c, d.counter? m.accessor = some c ∧
        TellsLast c (standing viewPassed.journal 0 m.accessor)) ∧
      let s := TestStep.invoke 0 (.text "stub_reset_all") []
      let after := (listening.take s).1
      s.Addresses listening 0 "stub_reset_all" ∧
        after.journal.drop (listening.journal.length + 1) = [.resetAll 1] ∧
          (listening.double? 1).bind (·.counter? "f") = some ⟨1, [.int 7]⟩ ∧
            (after.double? 1).bind (·.counter? "f") = some ⟨0, []⟩ := by
  constructor
  · have counter : (viewPassed.double? 0).map (fun d => d.stub.methods.map fun m =>
        (m.accessor, d.counter? m.accessor)) = some [("f", some ⟨2, [.int 7]⟩)] := by
      decide +kernel
    obtain ⟨d, known, counters⟩ := Option.map_eq_some_iff.mp counter
    obtain ⟨m, member, found⟩ := List.mem_map.mp
      (counters ▸ List.mem_singleton_self _ : _ ∈ d.stub.methods.map fun m =>
        (m.accessor, d.counter? m.accessor))
    obtain ⟨named, _⟩ := Prod.mk.inj found
    -- The last call passes the view, which no copy can be made of.
    have last : (standing viewPassed.journal 0 "f").getLast?.map keepsAll = some false := by
      decide +kernel
    refine ⟨d, m, known, member, ?_⟩
    rintro ⟨c, _, _, ⟨none, _⟩ | ⟨before, e, split, keeps⟩⟩
    · rw [named] at none
      rw [none] at last
      cases last
    · rw [named] at split
      rw [split, List.getLast?_append, List.getLast?_singleton, Option.some_or, Option.map_some,
        keepsAll_of_keeps keeps] at last
      cases last
  · exact ⟨addresses_listening, by decide +kernel, by decide +kernel, by decide +kernel⟩

def recordKind? : Exhibit → Option RecordKind
  | .record kind .. => some kind
  | _ => none

theorem resets_listening :
    let slot := Datum.kept 1 [.attribute "stub_counter", .key "f"]
    let space := Datum.kept 1 [.attribute "stub_counter"]
    TestStep.Resets listening (.reset 1 .counter .item (.text "f")) (.reset 1 "f") ∧
      TestStep.Resets listening (.reset 1 .counter .attribute (.text "f")) (.reset 1 "f") ∧
      TestStep.Resets listening (.call slot (.text "reset") []) (.reset 1 "f") ∧
      TestStep.Resets listening (.call space (.text "reset_all") []) (.resetAll 1) ∧
      TestStep.Resets listening (.call (.double 1) (.text "stub_reset_all") []) (.resetAll 1) ∧
      TestStep.Resets listening (.resetAll 1) (.resetAll 1) := by
  intro slot space
  have double : (listening.double? 1).map (fun d =>
      (d.locateGiven .counter .item (.text "f"), d.locateGiven .counter .attribute (.text "f"),
        d.stub.slotKey "f", d.marks.get? "stub_reset_all")) =
      some (.ok "f", .ok "f", "f", none) := by
    decide +kernel
  obtain ⟨d, known, told⟩ := Option.map_eq_some_iff.mp double
  simp only [Prod.mk.injEq] at told
  obtain ⟨item, named, itself, unmarked⟩ := told
  have counter : (listening.exhibit slot).toOption.bind recordKind? = some .counter := by
    decide +kernel
  obtain ⟨e, shown, kind⟩ := Option.bind_eq_some_iff.mp counter
  have apart (way : List Turn) (number : Nat) : ¬ (Datum.kept 1 way).StandsFor number := nofun
  refine ⟨.slot known item, .slot known named, .called (.own (apart _) ?_),
    .called (.own (apart _) (.space ?_ known)), .called (.unmarked (.double 1) known unmarked
      (.all (.double 1))), .all known⟩
  · have shown : listening.exhibit slot = .ok e := eq_ok_of_toOption shown
    unfold recordKind? at kind
    split at kind <;> cases kind
    have reset : listening.Resets slot "reset" [] (.reset 1 (d.stub.slotKey "f")) :=
      .slot shown rfl rfl known
    rwa [itself] at reset
  · rfl

theorem counters_follow_journal_listening :
    let s := TestStep.invoke 0 (.text "stub_reset_all") []
    let byName := TestStep.call (.kept 1 [.attribute "stub_counter", .key "f"]) (.text "reset") []
    Moves (empty countable) listening ∧ s.Addresses listening 0 "stub_reset_all" ∧
      Isolated listening (listening.take s).1 0 "stub_reset_all" ∧
        Befalls (.reset 1 "f") listening (listening.take byName).1 ∧
          Befalls (.resetAll 1) listening (listening.take (.resetAll 1)).1 ∧
            ∃ d m c, listening.double? 1 = some d ∧ m ∈ d.stub.methods ∧ m.accessor = "f" ∧
              d.counter? m.accessor = some c ∧ c.Tells (standing listening.journal 1 "f") ∧
                (standing listening.journal 1 "f").length = 1 := by
  intro s byName
  have reached : Moves (empty countable) listening := (counters_follow_journal countable).1 _
  have counts := (counters_follow_journal countable).2 listening reached
  have stub : (listening.double? 1).map (fun d => d.stub.methods.map (·.accessor)) =
      some ["f"] := by
    decide +kernel
  obtain ⟨d, known, accessors⟩ := Option.map_eq_some_iff.mp stub
  obtain ⟨m, member, named⟩ := List.mem_map.mp
    (accessors ▸ List.mem_singleton_self "f" : "f" ∈ d.stub.methods.map (·.accessor))
  obtain ⟨c, there, tells⟩ := counts.told 1 d m known member
  obtain ⟨_, _, slot, _, _, all⟩ := resets_listening
  exact ⟨reached, addresses_listening, counts.isolated s 0 _ addresses_listening,
    counts.resets byName _ slot, counts.resets _ _ all, d, m, c, known, member, named, there,
    named ▸ tells, by decide +kernel⟩

end Bench
end Understudy
