import Understudy.Proofs.Double.Moves

/-! What calls and steps note.

A call of what a datum has under a name notes nothing, has counters of one double reset, or invokes
one method. Which resets it calls for is said beside the functions that run it: a call that calls for
one has it noted, and none is noted that no call has called for. What a method notes once it is
invoked goes by induction on how deep calls may lie in each other.
-/

set_option autoImplicit false

namespace Understudy

/-- The data that stand for a double: the double itself and its copies. -/
inductive Datum.StandsFor : Datum → Nat → Prop where
  | double (number : Nat) : StandsFor (.double number) number
  | twin (number : Nat) : StandsFor (.twin number) number

namespace Bench

variable {b c : Bench} {number : Nat} {d : Datum} {name : String} {args : List Datum} {e : Entry}

/-! ## Resets that are called for -/

/-- What has counters go back to their first state when it is called on a datum: the reset of all
slots of a double, of all its counters, or of one of them, also where it is bound first. -/
inductive Resets (b : Bench) : Datum → String → List Datum → Entry → Prop where
  | all {d : Datum} {number : Nat} :
      d.StandsFor number → Resets b d "stub_reset_all" [] (.resetAll number)
  | space {number owner : Nat} {way : List Turn} {d : Double} :
      b.exhibit (.kept number way) = .ok (.space owner .counter) → b.double? owner = some d →
        Resets b (.kept number way) "reset_all" [] (.resetAll owner)
  | slot {number : Nat} {way : List Turn} {d : Double} {key : String} {kind : RecordKind}
      {parts hidden derived : List (String × Exhibit)} {text : Option (Except Slip String)} :
      b.exhibit (.kept number way) = .ok (.record kind parts hidden derived text) →
        kind.isSlot = true → slotOnWay? way = some (.counter, key) → b.double? number = some d →
          Resets b (.kept number way) "reset" [] (.reset number (d.stub.slotKey key))
  | bound {owner : Datum} {own : String} {args : List Datum} {e : Entry} :
      Resets b owner own args e → Resets b (.operation owner own) "__call__" args e

/-- The same where the name is looked up first. What a test has put on a double hides its own
members. -/
inductive NamedResets (b : Bench) (d : Datum) (name : String) (args : List Datum) (e : Entry) :
    Prop where
  | own : (∀ number, ¬ d.StandsFor number) → b.Resets d name args e → NamedResets b d name args e
  | unmarked {number : Nat} {double : Double} :
      d.StandsFor number → b.double? number = some double → double.marks.get? name = none →
        b.Resets d name args e → NamedResets b d name args e
  | marked {number : Nat} {double : Double} {mark : Datum} :
      d.StandsFor number → b.double? number = some double → double.marks.get? name = some mark →
        b.Resets mark "__call__" args e → NamedResets b d name args e

/-- What a callback has reset when a call of a method is handed over to it. -/
inductive CallbackResets (b : Bench) (method : String) (args : List Datum) (e : Entry) :
    Callback → Prop where
  | double {d : Datum} {number : Nat} : d.StandsFor number → b.answersTo number method = true →
      b.NamedResets (.double number) method args e → CallbackResets b method args e (.datum d)
  | named {d : Datum} : (∀ number, ¬ d.StandsFor number) → b.implements d method = true →
      b.NamedResets d method args e → CallbackResets b method args e (.datum d)
  | itself {d : Datum} : (∀ number, ¬ d.StandsFor number) → b.implements d method = false →
      b.isCallable d = true → b.Resets d "__call__" args e →
        CallbackResets b method args e (.datum d)

/-! ## Changes that note nothing -/

structure Quietly (b c : Bench) : Prop where
  shifts : Shifts b c
  journal : c.journal = b.journal

theorem Quietly.refl (b : Bench) : Quietly b b := ⟨.refl, rfl⟩

theorem Quietly.single (shift : Shift b c) (journal : c.journal = b.journal) : Quietly b c :=
  ⟨.single shift, journal⟩

theorem Quietly.trans {after : Bench} (first : Quietly b c) (last : Quietly c after) :
    Quietly b after :=
  ⟨first.shifts.trans last.shifts, last.journal.trans first.journal⟩

/-- A call that takes the entries of a double asks it for its keys, and so has reset what that
resets. -/
def Fetches (b : Bench) (args : List Datum) (e : Entry) : Prop :=
  ∃ source number between, args = [source] ∧ source.StandsFor number ∧ Quietly b between ∧
    between.NamedResets source "keys" [] e

theorem Fetches.after (before : Quietly b c) (fetches : c.Fetches args e) : b.Fetches args e := by
  obtain ⟨source, number, between, given, stands, quiet, resets⟩ := fetches
  exact ⟨source, number, between, given, stands, before.trans quiet, resets⟩

section

variable {P : Bench → Prop}

theorem after_answeringNone {outcome : Outcome} (stays : P b) (runs : args = [] → P outcome.1) :
    P (b.answeringNone args outcome).1 := by
  unfold answeringNone
  split
  next none => exact runs (List.isEmpty_iff.mp none)
  next => exact stays

theorem after_answeringOne {f : Datum → Outcome} (stays : P b)
    (runs : ∀ d, args = [d] → P (f d).1) : P (b.answeringOne args f).1 := by
  unfold answeringOne
  split
  · exact runs _ rfl
  · exact stays

theorem after_withKey {key : Datum} {use : String → Outcome} (stays : P b)
    (runs : ∀ key, P (use key).1) : P (b.withKey key use).1 := by
  unfold withKey
  split
  · exact runs _
  · exact stays

theorem after_withKeyValue {key : Value} {use : String → Outcome} (stays : P b)
    (runs : ∀ key, P (use key).1) : P (b.withKeyValue key use).1 := by
  unfold withKeyValue
  split
  · exact runs _
  · exact stays

end

theorem quietly_working (b : Bench) (work : Work Datum) : Quietly b (b.working work).1 :=
  .single (.beside _ _ _) rfl

theorem quietly_settling {way : List Turn} {e : Except CallFault Exhibit} :
    Quietly b (b.settling number way e).1 := by
  unfold settling
  split
  · exact quietly_working b _
  · exact .refl b

theorem quietly_create (b : Bench) (name : String) : Quietly b (b.create name).1 := by
  have created := creates_create b name
  generalize b.create name = outcome at created ⊢
  cases created with
  | refused => exact .single (.generate name) rfl
  | made yields => exact .single (.create yields) rfl

theorem quietly_createGiven (b : Bench) (name : Value) : Quietly b (b.createGiven name).1 := by
  unfold createGiven
  split
  · exact quietly_create b _
  · exact .refl b

theorem Nests.quietly {key : String} (nests : Nests b number key c) : Quietly b c := by
  cases nests with
  | same => exact .refl b
  | refused interface => exact .single (.generate interface) rfl
  | made known found handed missing yields =>
    exact .single (.handOut known found handed missing yields) rfl

theorem quietly_mark (b : Bench) (number : Nat) (name : String) (d : Datum) :
    Quietly b (b.mark number name d).1 := by
  have put : Quietly b (mark.put b number name d).1 :=
    .single (.mark number fun e => e.marks.set name d) rfl
  unfold mark
  split
  · split
    · exact .refl b
    · exact put
  · split
    · exact .refl b
    · split <;> exact .refl b
  · exact .refl b
  · exact put

theorem quietly_unmark (b : Bench) (number : Nat) (name : String) :
    Quietly b (b.unmark number name).1 := by
  unfold unmark
  split
  · exact .refl b
  · split
    · exact .single (.mark number fun d => d.marks.filter (·.1 != name)) rfl
    · exact .refl b

theorem quietly_memberOf (b : Bench) (d : Datum) (name : String) :
    Quietly b (b.memberOf d name).1 := by
  unfold memberOf
  split
  · split
    · exact quietly_working b _
    · exact .refl b
  · split
    · exact quietly_working b _
    · exact .refl b
  · exact quietly_settling
  · split
    · exact .refl b
    · exact quietly_working b _
    · exact .refl b
    · exact .refl b
    · exact .refl b
    · split <;> exact .refl b

theorem quietly_stubOperation? {way : List Turn} {methods : List Exhibit} {outcome : Outcome}
    (known : b.stubOperation? number way methods args name = some outcome) :
    Quietly b outcome.1 := by
  unfold stubOperation? at known
  split at known
  · cases known
    refine after_answeringOne (.refl b) fun key _ => ?_
    dsimp only
    split <;> exact .refl b
  · cases known
    exact after_answeringOne (.refl b) fun key _ => quietly_working b _
  · cases known

theorem quietly_exhibitTexts? {e : Exhibit} {outcome : Outcome}
    (known : b.exhibitTexts? e args name = some outcome) : Quietly b outcome.1 := by
  unfold exhibitTexts? at known
  split at known
  · cases known
    exact after_answeringNone (.refl b) fun _ => .refl b
  · cases known
    exact after_answeringNone (.refl b) fun _ => .refl b
  · cases known
    exact after_answeringOne (.refl b) fun spec _ => .refl b
  · cases known

theorem quietly_absorbPlain (b : Bench) (address : Nat) (d : Datum) :
    Quietly b (b.absorbPlain address d).1 :=
  quietly_working b _

/-! ## What calls come to -/

/-- A bench after a call: nothing is noted, or one of some resets, or what an invocation notes. -/
inductive Comes (invoke : Invocation) (resets : Entry → Prop) (b : Bench) : Bench → Prop where
  | quiet {c : Bench} : Quietly b c → Comes invoke resets b c
  | reset {c : Bench} {e : Entry} : resets e → Shifts b c → c.journal = b.journal ++ [e] →
      Comes invoke resets b c
  | invoked {between c : Bench} {number : Nat} {key : String} {args : List Datum} :
      Quietly b between → Quietly (invoke between number key args).1 c → Comes invoke resets b c

def Shifting (invoke : Invocation) : Prop := ∀ b number key args, Shifts b (invoke b number key args).1

section Comes

variable {invoke : Invocation} {resets wider : Entry → Prop}

theorem Comes.refl (b : Bench) : Comes invoke resets b b := .quiet (.refl b)

theorem Comes.of_invoke (b : Bench) (number : Nat) (key : String) (args : List Datum) :
    Comes invoke resets b (invoke b number key args).1 :=
  .invoked (.refl b) (.refl _)

theorem Comes.mono (comes : Comes invoke resets b c) (widens : ∀ e, resets e → wider e) :
    Comes invoke wider b c := by
  cases comes with
  | quiet quiet => exact .quiet quiet
  | reset listed shifts noted => exact .reset (widens _ listed) shifts noted
  | invoked before after => exact .invoked before after

theorem Comes.after {between : Bench} (before : Quietly b between)
    (comes : Comes invoke resets between c) : Comes invoke resets b c := by
  cases comes with
  | quiet quiet => exact .quiet (before.trans quiet)
  | reset listed shifts noted =>
    exact .reset listed (before.shifts.trans shifts) (by rw [noted, before.journal])
  | invoked first last => exact .invoked (before.trans first) last

theorem Comes.before {after : Bench} (comes : Comes invoke resets b c) (last : Quietly c after) :
    Comes invoke resets b after := by
  cases comes with
  | quiet quiet => exact .quiet (quiet.trans last)
  | reset listed shifts noted =>
    exact .reset listed (shifts.trans last.shifts) (last.journal.trans noted)
  | invoked first more => exact .invoked first (more.trans last)

theorem Comes.shifts (comes : Comes invoke resets b c) (shifting : Shifting invoke) :
    Shifts b c := by
  cases comes with
  | quiet quiet => exact quiet.shifts
  | reset _ shifts _ => exact shifts
  | invoked first last => exact (first.shifts.trans (shifting _ _ _ _)).trans last.shifts

/-! ## What doubles keep -/

theorem comes_spaceOperation? {way : List Turn} {chosen : Space} {outcome : Outcome}
    (known : b.spaceOperation? number way chosen args name = some outcome)
    (all : ∀ d, b.double? number = some d → chosen = .counter → name = "reset_all" → args = [] →
      resets (.resetAll number)) : Comes invoke resets b outcome.1 := by
  unfold spaceOperation? at known
  obtain ⟨d, there, known⟩ := Option.bind_eq_some_iff.mp known
  split at known
  · cases known
    refine after_answeringNone (.refl b) fun none => ?_
    have shift : Shift b (b.resetSpace number chosen) := .resetSpace number chosen
    -- Only of counters it is noted.
    cases chosen with
    | counter => exact .reset (all d there rfl rfl none) (.single shift) rfl
    | callback | static => exact .quiet (.single shift rfl)
  · cases known
    exact .quiet (after_answeringNone (.refl b) fun _ => .refl b)
  · cases known
    refine .quiet (after_answeringOne (.refl b) fun key _ => ?_)
    split
    · exact .refl b
    · split <;> exact .refl b
  · cases known
    refine .quiet (after_answeringOne (.refl b) fun key _ => ?_)
    split
    · exact quietly_settling
    · exact .refl b
  · cases known
    refine .quiet (after_answeringOne (.refl b) fun key _ => ?_)
    split
    · split
      · exact .refl b
      · exact quietly_settling
    · exact .refl b
  · cases known
    exact .quiet (after_answeringNone (.refl b) fun _ => quietly_working b _)
  · cases known

theorem comes_keptOperation? {way : List Turn} {e : Exhibit} {outcome : Outcome}
    (shown : b.exhibit (.kept number way) = .ok e)
    (known : b.keptOperation? number way e args name = some outcome) :
    Comes invoke (b.Resets (.kept number way) name args) b outcome.1 := by
  unfold keptOperation? at known
  simp only [Option.orElse_eq_orElse, Option.orElse_eq_or] at known
  rcases Option.or_eq_some_iff.mp known with own | ⟨_, text⟩
  · split at own
    · refine comes_spaceOperation? own fun d there counter named none => ?_
      subst counter named none
      exact .space shown there
    · split at own
      · exact .quiet (quietly_stubOperation? own)
      · cases own
    next chosen accessor _ leads =>
      split at own
      next fits =>
        cases own
        obtain ⟨isSlot, named⟩ := Bool.and_eq_true_iff.mp fits
        obtain rfl := beq_iff_eq.mp named
        obtain ⟨d, there, holds⟩ := holds_of_slotOnWay? leads shown
        refine after_answeringNone (.refl b) fun none => ?_
        subst none
        have shift : Shift b (b.reset number chosen accessor) := .reset there holds
        cases chosen with
        | counter =>
          refine .reset (.slot shown isSlot leads there) (.single shift) ?_
          simp [reset, there, note, update]
        | callback | static => exact .quiet (.single shift rfl)
      next => cases own
    · cases own
  · exact .quiet (quietly_exhibitTexts? text)

end Comes

/-! ## Data that stand for doubles and others -/

section

variable {means : Means} {invoke : Invocation} {method : String}

theorem callNamed_of_standsFor (stands : d.StandsFor number) :
    b.callNamed means d name args = b.callWith means d number name args := by
  cases stands <;> rfl

theorem callNamed_of_alone (alone : ∀ number, ¬ d.StandsFor number) :
    b.callNamed means d name args = b.callOwned means args d name := by
  cases d with
  | double number => exact absurd (.double number) (alone number)
  | twin number => exact absurd (.twin number) (alone number)
  | _ => rfl

theorem handOver_of_standsFor {other : Nat} (stands : d.StandsFor other) :
    b.handOver invoke number method args (.datum d) =
      if b.answersTo other method then
        b.callWith (Means.of invoke) (.double other) other method args
      else (b, .error (.deafCallback (b.label other) method)) := by
  cases stands <;> rfl

theorem handOver_of_alone (alone : ∀ number, ¬ d.StandsFor number) :
    b.handOver invoke number method args (.datum d) =
      if b.implements d method then b.callNamed (Means.of invoke) d method args
      else if b.isCallable d then b.callDatum (Means.of invoke) d args
      else (b, .error (.deafCallback (b.written d) method)) := by
  cases d with
  | double number => exact absurd (.double number) (alone number)
  | twin number => exact absurd (.twin number) (alone number)
  | _ => rfl

end

/-! ## Calls by a way of invoking methods -/

/-- Means that take entries by no other resets than those that the doubles asked for keys call for. -/
def Means.Absorbs (means : Means) : Prop :=
  ∀ b address d, Comes means.invoke (b.Fetches [d]) b (means.absorb b address d).1

section Means

variable {means : Means} {invoke : Invocation}

theorem comes_callOwn {resets : Entry → Prop} (member : OwnMember)
    (all : member = .resetAll → args = [] → resets (.resetAll number)) :
    Comes invoke resets b (callOwn invoke b number args member).1 := by
  unfold callOwn
  split
  · split
    · exact after_withKey (.refl b) fun key => .of_invoke b number key _
    · exact .refl b
  · exact .quiet (after_answeringOne (.refl b) fun key _ =>
      after_withKey (.refl b) fun key => (nests_nested b number key).quietly)
  · refine after_answeringNone (.refl b) fun none => ?_
    exact .reset (all rfl none) (.single (.resetAll number)) rfl
  · split
    · exact .quiet (quietly_working b _)
    · exact .refl b
  · split
    · split
      · exact .quiet (quietly_working b _)
      · exact .refl b
    all_goals exact .refl b
  · split
    · exact .quiet (after_answeringNone (.refl b) fun _ => quietly_working b _)
    · exact .refl b
  · split
    · exact .quiet (quietly_mark b number _ _)
    · exact .refl b
  · split
    · exact .quiet (quietly_unmark b number _)
    · exact .refl b
  all_goals exact .refl b

theorem comes_dispatch {resets : Entry → Prop} :
    Comes invoke resets b (dispatch invoke b number name args).1 := by
  unfold dispatch
  dsimp only
  split
  · exact .of_invoke b number _ args
  · exact .refl b

theorem comes_construct (absorbs : means.Absorbs) {kind : String} :
    Comes means.invoke (b.Fetches args) b (construct means b kind args).1 := by
  have allocated (heap : Heap) : Quietly b { b with heap } := .single (.beside heap _ _) rfl
  unfold construct
  split
  · unfold constructObject
    dsimp only
    split
    · exact .quiet (allocated _)
    · exact ((absorbs _ _ _).mono fun _ => .after (allocated _)).after (allocated _)
    · exact .quiet (allocated _)
  · exact comes_callOwn .construction fun other => by cases other
  · exact .quiet (after_answeringOne (.refl b) fun d _ => .refl b)
  · exact .quiet (quietly_working b _)

theorem comes_useMember (absorbs : means.Absorbs) (member : Member) :
    Comes means.invoke (b.Fetches args) b (b.useMember means d args member).1 := by
  unfold useMember
  split
  · exact .refl b
  · exact .refl b
  · exact .refl b
  · exact .quiet (quietly_working b _)
  · exact .refl b
  · exact .quiet (after_answeringOne (.refl b) fun d _ => .refl b)
  · split
    · exact absorbs _ _ _
    · split <;> exact .refl b
    · exact .refl b
  · exact comes_construct absorbs
  · split
    · exact .quiet (quietly_memberOf b d _)
    · exact .refl b

def Owned (b : Bench) (d : Datum) (name : String) (args : List Datum) (e : Entry) : Prop :=
  b.Resets d name args e ∨ b.Fetches args e

def Named (b : Bench) (d : Datum) (name : String) (args : List Datum) (e : Entry) : Prop :=
  b.NamedResets d name args e ∨ b.Fetches args e

theorem OwnMember.ofName?_eq_resetAll (named : OwnMember.ofName? name = some .resetAll) :
    name = "stub_reset_all" := by
  unfold OwnMember.ofName? at named
  split at named <;> cases named
  rfl

theorem comes_callDouble? (absorbs : means.Absorbs) (stands : d.StandsFor number) {outcome : Outcome}
    (known : b.callDouble? means d number name args = some outcome) :
    Comes means.invoke (b.Owned d name args) b outcome.1 := by
  unfold callDouble? at known
  split at known
  next member named =>
    cases known
    refine comes_callOwn _ fun all none => ?_
    subst all none
    rw [OwnMember.ofName?_eq_resetAll named]
    exact .inl (.all stands)
  next =>
    obtain ⟨member, _, rfl⟩ := Option.map_eq_some_iff.mp known
    exact (comes_useMember absorbs member).mono fun _ => .inr

theorem comes_callMember (absorbs : means.Absorbs) :
    Comes means.invoke (b.Fetches args) b (b.callMember means d name args).1 := by
  unfold callMember
  split
  · exact comes_useMember absorbs _
  · exact .refl b

theorem comes_callKept (absorbs : means.Absorbs) {way : List Turn} :
    Comes means.invoke (b.Owned (.kept number way) name args) b
      (b.callKept means number way name args).1 := by
  unfold callKept
  dsimp only
  split
  · exact .refl b
  next shown =>
    split
    next known => exact (comes_keptOperation? shown known).mono fun _ => .inl
    · exact (comes_useMember absorbs _).mono fun _ => .inr
    · exact .refl b
    · exact .refl b

theorem comes_callOwned (absorbs : means.Absorbs) (d : Datum) (name : String) :
    Comes means.invoke (b.Owned d name args) b (b.callOwned means args d name).1 := by
  have called {d : Datum} {number : Nat} {name : String} (stands : d.StandsFor number) :
      Comes means.invoke (b.Owned d name args) b
        ((b.callDouble? means d number name args).getD (b.slipping .noMember)).1 := by
    cases known : b.callDouble? means d number name args with
    | some outcome => exact comes_callDouble? absorbs stands known
    | none => exact .refl b
  induction d generalizing name with
  | operation owner own ih =>
    unfold callOwned
    split
    next bound =>
      obtain rfl := beq_iff_eq.mp bound
      exact (ih own).mono fun _ => Or.imp_left .bound
    next => exact (comes_callMember absorbs).mono fun _ => .inr
  | double number => exact called (.double number)
  | twin number => exact called (.twin number)
  | kept number way => exact comes_callKept absorbs
  | kind kind =>
    unfold callOwned
    split
    · exact (comes_construct absorbs).mono fun _ => .inr
    · exact (comes_callMember absorbs).mono fun _ => .inr
  | cell address =>
    unfold callOwned
    split
    · exact comes_dispatch
    · exact (comes_callMember absorbs).mono fun _ => .inr
  | plain _ | bytes _ | unanswered => exact (comes_callMember absorbs).mono fun _ => .inr

theorem comes_callDatum (absorbs : means.Absorbs) :
    Comes means.invoke (b.Owned d "__call__" args) b (b.callDatum means d args).1 := by
  unfold callDatum
  split
  · exact comes_callOwned absorbs d _
  · exact .refl b

theorem comes_callWith (absorbs : means.Absorbs) (stands : d.StandsFor number) :
    Comes means.invoke (b.Named d name args) b (b.callWith means d number name args).1 := by
  unfold callWith
  split
  · exact .refl b
  next double there =>
    split
    next mark marked =>
      exact (comes_callDatum absorbs).mono fun _ => Or.imp_left (.marked stands there marked)
    next unmarked known =>
      exact (comes_callDouble? absorbs stands known).mono fun _ =>
        Or.imp_left (.unmarked stands there unmarked)
    next =>
      split
      · exact comes_dispatch
      · exact .refl b

theorem comes_callNamed (absorbs : means.Absorbs) :
    Comes means.invoke (b.Named d name args) b (b.callNamed means d name args).1 := by
  by_cases stands : ∃ number, d.StandsFor number
  · obtain ⟨number, stands⟩ := stands
    rw [callNamed_of_standsFor stands]
    exact comes_callWith absorbs stands
  · have alone := not_exists.mp stands
    rw [callNamed_of_alone alone]
    exact (comes_callOwned absorbs d name).mono fun _ => Or.imp_left (.own alone)

theorem comes_absorb (invoke : Invocation) (b : Bench) (address : Nat) (d : Datum) :
    Comes invoke (b.Fetches [d]) b (absorb invoke b address d).1 := by
  have plain : Means.Absorbs ⟨invoke, absorbPlain⟩ :=
    fun b address d => .quiet (quietly_absorbPlain b address d)
  have asked {number : Nat} (stands : d.StandsFor number) : Comes invoke (b.Fetches [d]) b
      (b.callWith ⟨invoke, absorbPlain⟩ d number "keys" []).1 := by
    refine (comes_callWith plain stands).mono fun e named => ?_
    rcases named with named | ⟨_, _, _, ⟨⟩, _⟩
    exact ⟨d, number, b, rfl, stands, .refl b, named⟩
  cases d with
  | double number | twin number =>
    have asked := asked (by constructor)
    unfold absorb
    dsimp only
    split
    · split
      next outcome =>
        rw [outcome] at asked
        exact asked
      next outcome =>
        rw [outcome] at asked
        exact asked.before (quietly_working _ _)
    · exact .refl b
  | _ => exact .quiet (quietly_absorbPlain b address _)

theorem absorbs_of (invoke : Invocation) : (Means.of invoke).Absorbs := comes_absorb invoke

theorem comes_perform {resets : Entry → Prop} (action : Action) :
    Comes invoke resets b (b.perform invoke args action).1 := by
  cases action with
  | arguments => exact .quiet (.single (.beside _ _ _) rfl)
  | invoke handle accessor =>
    simp only [perform]
    split
    · exact .refl b
    · exact after_withKeyValue (.refl b) fun key => .of_invoke b _ key args
  | _ => exact .refl b

def HandedOver (b : Bench) (method : String) (args : List Datum) (callback : Callback)
    (e : Entry) : Prop :=
  b.CallbackResets method args e callback ∨ b.Fetches args e

theorem comes_handOver (invoke : Invocation) (b : Bench) (number : Nat) (method : String)
    (args : List Datum) (callback : Callback) :
    Comes invoke (b.HandedOver method args callback) b
      (b.handOver invoke number method args callback).1 := by
  have absorbs := absorbs_of invoke
  -- What all things of a kind have under the name goes before what the callback does itself.
  have thing {member : Option Member} {slot : Datum} {otherwise : Outcome}
      (comes : Comes invoke (b.HandedOver method args callback) b otherwise.1) :
      Comes invoke (b.HandedOver method args callback) b
        ((member.map (b.useMember (Means.of invoke) slot args)).getD otherwise).1 := by
    cases member with
    | some member => exact (comes_useMember absorbs member).mono fun _ => .inr
    | none => exact comes
  cases callback with
  | function action => exact thing (comes_perform action)
  | object name action =>
    simp only [handOver]
    split
    · exact comes_perform action
    · exact thing (.refl b)
  | inert => exact thing (.refl b)
  | datum d =>
    by_cases stands : ∃ number, d.StandsFor number
    · obtain ⟨other, stands⟩ := stands
      rw [handOver_of_standsFor stands]
      split
      next answers =>
        exact (comes_callWith absorbs (.double other)).mono fun _ =>
          Or.imp_left (.double stands answers)
      next => exact .refl b
    · have alone := not_exists.mp stands
      rw [handOver_of_alone alone]
      split
      next implements =>
        exact (comes_callNamed absorbs).mono fun _ => Or.imp_left (.named alone implements)
      next lacks =>
        split
        next callable =>
          exact (comes_callDatum absorbs).mono fun _ =>
            Or.imp_left (.itself alone (by simpa using lacks) callable)
        next => exact .refl b

end Means

/-! ## Calls of calls -/

theorem fst_invokeWith_of_missing {key : String}
    (missing : (b.double? number).bind (·.stub.method? key) = none) (args : List Datum)
    (fuel : Nat) : (invokeWith fuel b number key args).1 = b := by
  cases fuel with
  | zero => rfl
  | succ fuel =>
    rw [invokeWith]
    cases known : b.double? number with
    | none => rfl
    | some d =>
      rw [known, Option.bind_some] at missing
      dsimp only
      rw [missing]

theorem shifting_invokeWith (fuel : Nat) : Shifting (invokeWith fuel) := by
  -- What callbacks invoke in turn has less fuel.
  induction fuel with
  | zero => exact fun b number key args => .refl
  | succ fuel ih =>
    intro b number key args
    cases method : (b.double? number).bind (·.stub.method? key) with
    | none => rw [fst_invokeWith_of_missing method]
    | some m =>
      obtain ⟨d, known, found⟩ := Option.bind_eq_some_iff.mp method
      have ran := invokes_invokeWith known found args fuel
      have accepted {between : Bench} {result : Except Slip Unit} (arity : args.length = m.arity)
          (taken : b.accept number m args = (between, result)) : Shifts b between :=
        .single (.of_accept known (mem_of_method? found) arity taken)
      generalize invokeWith (fuel + 1) b number key args = outcome at ran ⊢
      cases ran with
      | refused _ => exact .refl
      | lost arity lost => exact accepted arity lost
      | @handed between _ callback _ arity taken _ handed =>
        have shifts : Shifts between
            (between.handOver (invokeWith fuel) number m.accessor args callback).1 :=
          (comes_handOver _ between number m.accessor args callback).shifts ih
        rw [handed] at shifts
        exact (accepted arity taken).trans shifts
      | answered arity taken _ =>
        exact (accepted arity taken).trans (nests_fallBack _ number m).quietly.shifts

theorem shifts_handOver (b : Bench) (fuel number : Nat) (method : String) (args : List Datum)
    (callback : Callback) :
    Shifts b (b.handOver (invokeWith fuel) number method args callback).1 :=
  (comes_handOver _ b number method args callback).shifts (shifting_invokeWith fuel)

theorem comes_callHeld (b : Bench) (d : Datum) (name : String) (args : List Datum) :
    Comes (invokeWith (b.depth args)) (b.Named d name args) b
      (b.callHeld d (.text name) args).1 :=
  comes_callNamed (absorbs_of _)

/-! ## Resets are noted -/

section Means

variable {means : Means} {way : List Turn} {double : Double}

theorem callKept_of_keptOperation? {e : Exhibit} {outcome : Outcome}
    (shown : b.exhibit (.kept number way) = .ok e)
    (known : b.keptOperation? number way e args name = some outcome) :
    b.callKept means number way name args = outcome := by
  unfold callKept
  dsimp only
  rw [shown]
  dsimp only
  rw [known]

theorem keptOperation?_space {owner : Nat} {space : Space} (there : b.double? owner = some double) :
    b.keptOperation? number way (.space owner space) [] "reset_all" =
      some (b.resetSpace owner space, .ok .nothing) := by
  simp [keptOperation?, spaceOperation?, there, answeringNone]

theorem keptOperation?_slot {kind : RecordKind} {parts hidden derived : List (String × Exhibit)}
    {text : Option (Except Slip String)} {space : Space} {key : String} (isSlot : kind.isSlot = true)
    (leads : slotOnWay? way = some (space, key)) :
    b.keptOperation? number way (.record kind parts hidden derived text) [] "reset" =
      some (b.reset number space key, .ok .nothing) := by
  cases kind with
  | counter | callbackSlot | staticSlot =>
    simp [keptOperation?, leads, answeringNone, RecordKind.isSlot]
  | _ => cases isSlot

theorem journal_callOwned (resets : b.Resets d name args e) :
    (b.callOwned means args d name).1.journal = b.journal ++ [e] := by
  induction resets with
  | all stands => cases stands <;> rfl
  | space shown there =>
    rw [callOwned, callKept_of_keptOperation? shown (keptOperation?_space there)]
    rfl
  | slot shown isSlot leads there =>
    rw [callOwned, callKept_of_keptOperation? shown (keptOperation?_slot isSlot leads)]
    simp [reset, there, note, update]
  | bound resets ih =>
    unfold callOwned
    exact ih

theorem isCallable_of_resets (resets : b.Resets d "__call__" args e) : b.isCallable d = true := by
  generalize called : "__call__" = name at resets
  cases resets with
  | all | space | slot => exact absurd called (by decide)
  | bound => rfl

theorem journal_callDatum (resets : b.Resets d "__call__" args e) :
    (b.callDatum means d args).1.journal = b.journal ++ [e] := by
  rw [callDatum, if_pos (isCallable_of_resets resets)]
  exact journal_callOwned resets

theorem journal_callWith (stands : d.StandsFor number) (there : b.double? number = some double)
    (resets : double.marks.get? name = none ∧ b.Resets d name args e ∨
      ∃ mark, double.marks.get? name = some mark ∧ b.Resets mark "__call__" args e) :
    (b.callWith means d number name args).1.journal = b.journal ++ [e] := by
  rw [callWith, there]
  dsimp only
  rcases resets with ⟨unmarked, resets⟩ | ⟨mark, marked, resets⟩
  · rw [unmarked]
    -- Of its own a double has nothing but the reset of all.
    cases resets with
    | all other => cases stands <;> cases other <;> rfl
    | space | slot | bound => cases stands
  · rw [marked]
    exact journal_callDatum resets

theorem journal_callNamed (resets : b.NamedResets d name args e) :
    (b.callNamed means d name args).1.journal = b.journal ++ [e] := by
  cases resets with
  | own alone resets =>
    rw [callNamed_of_alone alone]
    exact journal_callOwned resets
  | unmarked stands there unmarked resets =>
    rw [callNamed_of_standsFor stands]
    exact journal_callWith stands there (.inl ⟨unmarked, resets⟩)
  | marked stands there marked resets =>
    rw [callNamed_of_standsFor stands]
    exact journal_callWith stands there (.inr ⟨_, marked, resets⟩)

theorem journal_handOver {invoke : Invocation} {method : String} {callback : Callback}
    (resets : b.CallbackResets method args e callback) :
    (b.handOver invoke number method args callback).1.journal = b.journal ++ [e] := by
  cases resets with
  | double stands answers resets =>
    rw [handOver_of_standsFor stands, if_pos answers]
    exact journal_callNamed resets
  | named alone implements resets =>
    rw [handOver_of_alone alone, if_pos implements]
    exact journal_callNamed resets
  | itself alone lacks callable resets =>
    rw [handOver_of_alone alone, lacks, if_neg Bool.false_ne_true, if_pos callable]
    exact journal_callDatum resets

end Means

end Bench

/-! ## Steps -/

/-- A step that invokes a method or calls what a datum has. -/
inductive TestStep.Calls : TestStep → Prop where
  | invoke (number : Nat) (key : String) (args : List Datum) : Calls (.invoke number (.text key) args)
  | call (d : Datum) (name : String) (args : List Datum) : Calls (.call d (.text name) args)

/-- What a step has reset of counters, the one under a slot, those of a double, or what is reset by
the call that it makes. -/
inductive TestStep.Resets (b : Bench) : TestStep → Entry → Prop where
  | slot {number : Nat} {d : Double} {access : Double.Access} {key : Value} {accessor : String} :
      b.double? number = some d → d.locateGiven .counter access key = .ok accessor →
        Resets b (.reset number .counter access key) (.reset number accessor)
  | all {number : Nat} {d : Double} :
      b.double? number = some d → Resets b (.resetAll number) (.resetAll number)
  | called {d : Datum} {name : String} {args : List Datum} {e : Entry} :
      b.NamedResets d name args e → Resets b (.call d (.text name) args) e

namespace Bench

variable {b : Bench} {s : TestStep} {e : Entry}

theorem journal_take (resets : s.Resets b e) : (b.take s).1.journal = b.journal ++ [e] := by
  cases resets with
  | slot known located =>
    simp [take, atSlot, known, located, reset, note, update, Double.slotKey_of_locateGiven located]
  | all known => simp [take, known, resetAll, note, update]
  | called resets => exact journal_callNamed resets

theorem after_atSlot {P : Bench → Prop} {number : Nat} {space : Space} {access : Double.Access}
    {key : Value} {change : String → Bench} (stays : P b)
    (changes : ∀ d accessor, b.double? number = some d →
      d.locateGiven space access key = .ok accessor → P (change accessor)) :
    P (b.atSlot number space access key change).1 := by
  unfold atSlot
  split
  · exact stays
  next d known =>
    split
    · exact stays
    next accessor located => exact changes d accessor known located

theorem after_registering {P : Bench → Prop} {registry : Except Slip Registry}
    {change : Registry → Bench} (stays : P b) (changes : ∀ registry, P (change registry)) :
    P (b.registering registry change).1 := by
  unfold registering
  split
  · exact stays
  · exact changes _

theorem quietly_take (calls : ¬ s.Calls) (resets : ∀ e, ¬ s.Resets b e) :
    Quietly b (b.take s).1 := by
  -- The steps that note something are those that the hypotheses leave out.
  cases s with
  | create name =>
    have made := quietly_createGiven b name
    simp only [take]
    split
    next outcome =>
      rw [outcome] at made
      exact made
    next outcome =>
      rw [outcome] at made
      exact made
  | place value => exact quietly_working b _
  | hold handle d => exact after_registering (.refl b) fun _ => .single (.beside _ _ _) rfl
  | assign name d => exact after_registering (.refl b) fun _ => .single (.beside _ _ _) rfl
  | invoke number key args =>
    cases key with
    | text key => exact absurd (.invoke number key args) calls
    | _ => exact .refl b
  | call d name args =>
    cases name with
    | text name => exact absurd (.call d name args) calls
    | _ => exact .refl b
  | nested number key =>
    exact after_withKeyValue (.refl b) fun key => (nests_nested b number key).quietly
  | setStatic number access key answer =>
    exact after_atSlot (.refl b) fun d accessor _ _ => .single (.setStatic number accessor answer) rfl
  | setCallback number access key callback =>
    exact after_atSlot (.refl b) fun d accessor known located =>
      .single (.setCallback callback known (.inr (mem_accessors_of_locateGiven located))) rfl
  | reset number space access key =>
    refine after_atSlot (.refl b) fun d accessor known located => ?_
    have shift : Shift b (b.reset number space accessor) :=
      .reset known (.inr (mem_accessors_of_locateGiven located))
    cases space with
    | counter => exact absurd (.slot known located) (resets _)
    | callback | static => exact .single shift rfl
  | resetAll number =>
    simp only [take]
    split
    next there =>
      obtain ⟨d, known⟩ := Option.isSome_iff_exists.mp there
      exact absurd (.all known) (resets _)
    next => exact .refl b

theorem shifts_take (b : Bench) (s : TestStep) : Shifts b (b.take s).1 := by
  by_cases calls : s.Calls
  · cases calls with
    | invoke number key args => exact shifting_invokeWith _ b number key args
    | call d name args => exact (comes_callHeld b d name args).shifts (shifting_invokeWith _)
  by_cases resets : ∃ e, s.Resets b e
  · obtain ⟨e, resets⟩ := resets
    cases resets with
    | @slot number d access key accessor known located =>
      have shift : Shift b (b.reset number .counter accessor) :=
        .reset known (.inr (mem_accessors_of_locateGiven located))
      simpa only [take, atSlot, known, located] using .single shift
    | all known => simpa only [take, known] using .single (.resetAll _)
    | called => exact absurd (.call _ _ _) calls
  · exact (quietly_take calls (not_exists.mp resets)).shifts

theorem shifts_run (b : Bench) (steps : List TestStep) : Shifts b (b.run steps) := by
  induction steps generalizing b with
  | nil => exact .refl
  | cons s rest ih => exact (shifts_take b s).trans (ih (b.take s).1)

end Bench
end Understudy
