import Understudy.Proofs.Double.Reset
import Understudy.Proofs.Double.Selecting

/-! Two doubles with the same slots, asked the same.

As long as no callback turns to doubles, their benches go in step: they share all that lies beside the
doubles, and the slots stay the same. What is answered is the same as well, but for the doubles that
are handed out. That goes function by function, then for one step, and by induction for all.
-/

set_option autoImplicit false

namespace Understudy

open Understudy.Cpp

/-! ## Steps -/

inductive Use where
  | invoke (key : Value) (args : List Datum)
  | call (name : Value) (args : List Datum)
  | nested (key : Value)
  | setStatic (access : Double.Access) (key : Value) (answer : Datum)
  | setCallback (access : Double.Access) (key : Value) (callback : Option Callback)
  | reset (space : Space) (access : Double.Access) (key : Value)
  | resetAll
  deriving DecidableEq, Repr

namespace Use

def on (number : Nat) : Use → TestStep
  | .invoke key args => .invoke number key args
  | .call name args => .call (.double number) name args
  | .nested key => .nested number key
  | .setStatic access key answer => .setStatic number access key answer
  | .setCallback access key callback => .setCallback number access key callback
  | .reset space access key => .reset number space access key
  | .resetAll => .resetAll number

/-- Methods that may take a call, and with which arguments. -/
inductive Reaches (d : Double) : Use → InstrumentedMethod → List Datum → Prop where
  | invoke {key : String} {args : List Datum} {m : InstrumentedMethod} :
      d.stub.method? key = some m → Reaches d (.invoke (.text key) args) m args
  | call {name : String} {args : List Datum} {m : InstrumentedMethod} :
      m ∈ d.stub.methods → m.name = name → Reaches d (.call (.text name) args) m args
  | callInvoke {key : String} {args : List Datum} {m : InstrumentedMethod} :
      d.stub.method? key = some m →
        Reaches d (.call (.text "invoke") (.plain (.text key) :: args)) m args

end Use

namespace Bench

variable {b c : Bench} {n m : Nat} {t : SymbolTable} {lead : Value}

/-! ## Benches in step -/

/-- Two doubles have the same slots, and nothing else on their benches tells them apart but what they
have handed out. On the second one no test has put anything. -/
structure Matches (b c : Bench) (n m : Nat) : Prop extends SharesBeside b c where
  doubles : ∃ d nested, b.double? n = some d ∧ c.double? m = some { d with nested, marks := [] }

/-- Answers are the same, or doubles that the same method hands out. -/
inductive AnswersAlike (b c : Bench) (n m : Nat) :
    Except CallFault Datum → Except CallFault Datum → Prop where
  | same (answer : Except CallFault Datum) : AnswersAlike b c n m answer answer
  | handed {accessor : String} {k l : Nat} : b.child? n accessor = some k →
      c.child? m accessor = some l → AnswersAlike b c n m (.ok (.double k)) (.ok (.double l))

structure Alike (n m : Nat) (o p : Outcome) : Prop where
  after : Matches o.1 p.1 n m
  answers : AnswersAlike o.1 p.1 n m o.2 p.2

theorem Matches.alike (matches_ : Matches b c n m) (answer : Except CallFault Datum) :
    Alike n m (b, answer) (c, answer) := ⟨matches_, .same answer⟩

/-- A change of a double that neither asks for nor changes what lies beside its slots. -/
def OfSlots (change : Double → Double) : Prop :=
  ∀ d nested marks, change { d with nested, marks } = { change d with nested, marks }

theorem ofSlots_setStatic (key : String) (answer : Datum) : OfSlots (·.setStatic key answer) := by
  intro d nested marks
  have same : ({ d with nested, marks } : Double).static? key = d.static? key := rfl
  dsimp only
  rw [Double.setStatic, Double.setStatic, same]
  split <;> rfl

theorem ofSlots_reset (space : Space) (key : String) : OfSlots (·.reset space key) := by
  intro d nested marks
  cases space with
  | counter | callback => rfl
  | static =>
    have same : ({ d with nested, marks } : Double).static? key = d.static? key := rfl
    dsimp only [Double.reset]
    rw [same]
    split
    · exact ofSlots_setStatic key _ d nested marks
    · rfl

theorem Matches.of_change (matches_ : Matches b c n m) {f : Double → Double}
    (ofSlots : OfSlots f) {b' c' : Bench} (beside : SharesBeside b' c')
    (left : b'.double? n = (b.double? n).map f)
    (right : c'.double? m = (c.double? m).map f) : Matches b' c' n m := by
  obtain ⟨d, nested, known, known'⟩ := matches_.doubles
  refine ⟨beside, f d, nested, ?_, ?_⟩
  · rw [left, known]
    rfl
  · rw [right, known']
    exact congrArg some (ofSlots d nested [])

theorem Matches.accept (matches_ : Matches b c n m) (x : InstrumentedMethod) (args : List Datum) :
    (c.accept m x args).2 = (b.accept n x args).2 ∧
      Matches (b.accept n x args).1 (c.accept m x args).1 n m := by
  have beside := matches_.toSharesBeside
  have noted (e e' : Entry) (change change' : Double → Double) (heap : Heap) :
      SharesBeside { (b.note e).update n change with heap }
        { (c.note e').update m change' with heap } :=
    ⟨beside.generator, rfl, beside.handles, beside.locals⟩
  rw [accept_eq, accept_eq, beside.heap]
  rcases (keep x.method.parameters args).run.run b.heap with ⟨slip | params, heap⟩
  · exact ⟨rfl, matches_.of_change (f := counting x) (fun _ _ _ => rfl) (noted _ _ _ _ _)
      (double?_update_self _ n _) (double?_update_self _ m _)⟩
  · exact ⟨rfl, matches_.of_change (f := keeping x params ∘ counting x) (fun _ _ _ => rfl)
      (noted _ _ _ _ _) (double?_update_self _ n _) (double?_update_self _ m _)⟩

/-! ## Handing out -/

theorem Matches.of_families (matches_ : Matches b c n m) {b' c' : Bench}
    (beside : SharesBeside b' c')
    (left : ∃ family, b'.double? n = (b.double? n).map ({ · with nested := family }))
    (right : ∃ family, c'.double? m = (c.double? m).map ({ · with nested := family })) :
    Matches b' c' n m := by
  obtain ⟨d, nested, known, known'⟩ := matches_.doubles
  obtain ⟨own, left⟩ := left
  obtain ⟨other, right⟩ := right
  refine ⟨beside, { d with nested := own }, other, ?_, ?_⟩
  · rw [left, known]
    rfl
  · rw [right, known']
    rfl

theorem Matches.nested (matches_ : Matches b c n m) (stocked : b.IsStocked t lead)
    (stocked' : c.IsStocked t lead) (key : String) :
    Alike n m (b.nested n key) (c.nested m key) := by
  have beside := matches_.toSharesBeside
  obtain ⟨d, family, known, known'⟩ := matches_.doubles
  cases found : d.stub.method? key with
  | none =>
    rw [nested_of_unknown known found, nested_of_unknown known' found]
    exact matches_.alike _
  | some x =>
    have member := mem_of_method? found
    cases handed : x.nested with
    | none =>
      rw [nested_of_barren known found handed, nested_of_barren known' found handed]
      exact matches_.alike _
    | some interface =>
      have child : b.child? n x.accessor = d.nested.get? x.accessor := by
        rw [child?, known, Option.bind_some]
      have child' : c.child? m x.accessor = family.get? x.accessor := by
        rw [child?, known', Option.bind_some]
      have left (generator : Generator) (made : Double) :
          ∃ nested, (b.withHeir n x.accessor generator made).double? n =
            (b.double? n).map ({ · with nested }) :=
        ⟨_, by rw [double?_withHeir known, known]; rfl⟩
      have right (generator : Generator) (made : Double) :
          ∃ nested, (c.withHeir m x.accessor generator made).double? m =
            (c.double? m).map ({ · with nested }) :=
        ⟨_, by rw [double?_withHeir known', known']; rfl⟩
      -- What has been handed out outlives resets, so either of the two may be ahead of the other.
      cases used : d.nested.get? x.accessor <;> cases used' : family.get? x.accessor
      case some.some k l =>
        rw [nested_of_used known found handed used, nested_of_used known' found handed used']
        exact ⟨matches_, .handed (child.trans used) (child'.trans used')⟩
      case some.none k =>
        obtain ⟨_, same, offers⟩ := stocked.offered n d x k known member (child.trans used)
        cases handed.symm.trans same
        obtain ⟨made, first⟩ :=
          nested_of_offers known' found handed used' (beside.generator ▸ offers)
        rw [nested_of_used known found handed used, first]
        exact ⟨matches_.of_families ⟨beside.generator, beside.heap, beside.handles, beside.locals⟩
          ⟨d.nested, by rw [known]; rfl⟩ (right _ _),
          .handed (child.trans used) (child?_withHeir known')⟩
      case none.some l =>
        obtain ⟨_, same, offers⟩ := stocked'.offered m _ x l known' member (child'.trans used')
        cases handed.symm.trans same
        obtain ⟨made, first⟩ :=
          nested_of_offers known found handed used (beside.generator ▸ offers)
        rw [nested_of_used known' found handed used', first]
        exact ⟨matches_.of_families ⟨beside.generator, beside.heap, beside.handles, beside.locals⟩
          (left _ _) ⟨family, by rw [known']; rfl⟩,
          .handed (child?_withHeir known) (child'.trans used')⟩
      case none.none =>
        rw [nested_eq_withHeir known found handed used, nested_eq_withHeir known' found handed used',
          beside.generator]
        rcases b.generator.generate interface with ⟨generator, fault | stub⟩
        · exact ⟨⟨⟨rfl, beside.heap, beside.handles, beside.locals⟩, matches_.doubles⟩, .same _⟩
        · dsimp only
          cases Double.ofStub stub with
          | error slip =>
            exact ⟨⟨⟨rfl, beside.heap, beside.handles, beside.locals⟩, matches_.doubles⟩, .same _⟩
          | ok made =>
            exact ⟨matches_.of_families ⟨rfl, beside.heap, beside.handles, beside.locals⟩
              (left generator made) (right generator made),
              .handed (child?_withHeir known) (child?_withHeir known')⟩

/-! ## Calls -/

/-- A callback answers a call without any double: wherever the same lies beside doubles, the answer is
the same, and so is the heap that is left. -/
def SparesDoubles (b : Bench) (method : String) (args : List Datum) (callback : Callback) : Prop :=
  ∃ heap answer, ∀ c, SharesBeside b c → ∀ number fuel,
    c.handOver (invokeWith fuel) number method args callback = ({ c with heap }, answer)

theorem Matches.fallBack (matches_ : Matches b c n m) (stocked : b.IsStocked t lead)
    (stocked' : c.IsStocked t lead) (x : InstrumentedMethod) :
    Alike n m (b.fallBack n x) (c.fallBack m x) := by
  obtain ⟨d, family, known, known'⟩ := matches_.doubles
  have same : ({ d with nested := family, marks := [] } : Double).static? x.accessor =
      d.static? x.accessor := rfl
  unfold Bench.fallBack
  rw [known, known', Option.bind_some, Option.bind_some, same]
  split
  · exact matches_.alike _
  · split
    · exact matches_.alike _
    · split
      · exact matches_.nested stocked stocked' x.accessor
      · exact matches_.alike _

/-- Both doubles are invoked alike if no callback turns to doubles. How deep callbacks may call back
does not matter then. -/
theorem Matches.invokeWith (arena : t.IsArena) (matches_ : Matches b c n m)
    (stocked : b.IsStocked t lead) (stocked' : c.IsStocked t lead) {d : Double}
    (known : b.double? n = some d) {key : String} {args : List Datum}
    (spares : ∀ x between callback, d.stub.method? key = some x →
      b.accept n x args = (between, .ok ()) → d.callback? x.accessor = some callback →
        between.SparesDoubles x.accessor args callback) (fuel fuel' : Nat) :
    Alike n m (Bench.invokeWith (fuel + 1) b n key args)
      (Bench.invokeWith (fuel' + 1) c m key args) := by
  obtain ⟨d', family, there, known'⟩ := matches_.doubles
  cases known.symm.trans there
  rw [Bench.invokeWith, Bench.invokeWith, known, known']
  dsimp only
  cases found : d.stub.method? key with
  | none => exact matches_.alike _
  | some x =>
    dsimp only
    split
    next arity =>
      have member := mem_of_method? found
      obtain ⟨results, after⟩ := matches_.accept x args
      have shift : Shift b (b.accept n x args).1 := .accept known member arity
      have shift' : Shift c (c.accept m x args).1 := .accept known' member arity
      rcases taken : b.accept n x args with ⟨between, result⟩
      rcases taken' : c.accept m x args with ⟨between', result'⟩
      rw [taken, taken'] at results after
      rw [taken] at shift
      rw [taken'] at shift'
      obtain rfl : result' = result := results
      cases result' with
      | error slip => exact after.alike _
      | ok _ =>
        have same : ({ d with nested := family, marks := [] } : Double).callback? x.accessor =
            d.callback? x.accessor := rfl
        rw [same]
        cases set_ : d.callback? x.accessor with
        | none =>
          exact after.fallBack (shift.isStocked arena stocked) (shift'.isStocked arena stocked') x
        | some callback =>
          obtain ⟨heap, answer, spared⟩ := spares x between callback found taken set_
          have beside := after.toSharesBeside
          dsimp only
          -- The callback is called on both benches, and all that it sees of them is the same.
          rw [spared between ⟨rfl, rfl, rfl, rfl⟩ n fuel, spared between' beside m fuel']
          exact ⟨⟨⟨beside.generator, rfl, beside.handles, beside.locals⟩, after.doubles⟩, .same _⟩
    next => exact matches_.alike _

theorem Matches.update (matches_ : Matches b c n m) {f : Double → Double} (ofSlots : OfSlots f) :
    Matches (b.update n f) (c.update m f) n m :=
  matches_.of_change ofSlots
    ⟨matches_.generator, matches_.heap, matches_.handles, matches_.locals⟩
    (double?_update_self b n f) (double?_update_self c m f)

theorem Matches.reset (matches_ : Matches b c n m) (space : Space) (key : String) :
    Matches (b.reset n space key) (c.reset m space key) n m := by
  have changed := matches_.update (ofSlots_reset space key)
  have beside : SharesBeside (b.reset n space key) (c.reset m space key) := by
    cases space <;> exact ⟨matches_.generator, matches_.heap, matches_.handles, matches_.locals⟩
  obtain ⟨d, family, known, known'⟩ := changed.doubles
  refine ⟨beside, d, family, ?_, ?_⟩
  · rw [double?_reset, known]
  · rw [double?_reset, known']

theorem Matches.resetAll (matches_ : Matches b c n m) : Matches (b.resetAll n) (c.resetAll m) n m :=
  matches_.of_change (f := Double.resetAll) (fun _ _ _ => rfl)
    ⟨matches_.generator, matches_.heap, matches_.handles, matches_.locals⟩
    (double?_update_self _ n _) (double?_update_self _ m _)

/-! ## Steps -/

inductive Paired (b c : Bench) (n m : Nat) (d : Double) (use : Use) : Outcome → Outcome → Prop where
  | same (answer : Except CallFault Datum) : Paired b c n m d use (b, answer) (c, answer)
  | invoke {key : String} {args : List Datum} (fuel fuel' : Nat) :
      (∀ x between callback, d.stub.method? key = some x →
        b.accept n x args = (between, .ok ()) → d.callback? x.accessor = some callback →
          between.SparesDoubles x.accessor args callback) →
        Paired b c n m d use (Bench.invokeWith (fuel + 1) b n key args)
          (Bench.invokeWith (fuel' + 1) c m key args)
  | nested (key : String) : Paired b c n m d use (b.nested n key) (c.nested m key)
  | setStatic (key : String) (answer : Datum) :
      Paired b c n m d use (b.update n (·.setStatic key answer), .ok .nothing)
        (c.update m (·.setStatic key answer), .ok .nothing)
  | setCallback {access : Double.Access} {key : Value} {callback : Option Callback}
      {accessor : String} : use = .setCallback access key callback →
        d.locateGiven .callback access key = .ok accessor →
          Paired b c n m d use (b.update n (·.setCallback accessor callback), .ok .nothing)
            (c.update m (·.setCallback accessor callback), .ok .nothing)
  | reset (space : Space) (key : String) :
      Paired b c n m d use (b.reset n space key, .ok .nothing) (c.reset m space key, .ok .nothing)
  | resetAll : Paired b c n m d use (b.resetAll n, .ok .nothing) (c.resetAll m, .ok .nothing)

theorem Paired.alike (arena : t.IsArena) (matches_ : Matches b c n m)
    (stocked : b.IsStocked t lead) (stocked' : c.IsStocked t lead) {d : Double}
    (known : b.double? n = some d) {use : Use} {o p : Outcome} (paired : Paired b c n m d use o p) :
    Alike n m o p := by
  cases paired with
  | same answer => exact matches_.alike answer
  | invoke fuel fuel' spares =>
    exact matches_.invokeWith arena stocked stocked' known spares fuel fuel'
  | nested key => exact matches_.nested stocked stocked' key
  | setStatic key answer => exact (matches_.update (ofSlots_setStatic key answer)).alike _
  | setCallback _ _ => exact (matches_.update fun _ _ _ => rfl).alike _
  | reset space key => exact (matches_.reset space key).alike _
  | resetAll => exact matches_.resetAll.alike _

section Calls

variable {d : Double} {name : String} {args : List Datum}

end Calls

end Bench
end Understudy
