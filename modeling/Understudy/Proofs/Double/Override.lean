import Understudy.Proofs.Double.Body
import Understudy.Proofs.Double.Creation
import Understudy.Proofs.Double.Isolation

/-! What an override does and what a live double does.

Main statement: a call of the method of a live double counts and keeps what the body of its override
does, and it is answered from where the body ends. The one exception is a nested double that has yet
to be made: it is asked for by the name of its interface, and a name that is declared with a leading
scope mark then stands for another one.
-/

set_option autoImplicit false

namespace Understudy

open Understudy.Cpp

/-! ## The slots of a live double -/

/-- A live double keeps what a body has stored: where an argument lies it keeps the argument itself. -/
inductive Stored.Holds : Stored → Datum → Prop where
  | address (d : Datum) : Holds (.address d) d
  | copy {d copy : Datum} {h after : Heap} :
      (Work.copy d).run.run h = (.ok copy, after) → Holds (.copy d) copy

structure Frame.Shows (f : Frame) (m : InstrumentedMethod) (d : Double) : Prop where
  calls : (d.counter? m.accessor).map (·.calls) = some f.calls
  callback : d.callback? m.accessor = f.callback
  /-- A method that returns nothing has no static slot. -/
  static : m.isVoid = false → (d.static? m.accessor).map (·.current) = some f.static
  nested : d.nested.get? m.accessor = f.nested

def Frame.fresh (m : InstrumentedMethod) : Frame := ⟨0, fun _ => none, none, m.initialAnswer, none⟩

theorem Frame.shows_fresh {stub : Stub} {m : InstrumentedMethod}
    (distinct : (stub.methods.map (·.accessor)).Nodup) (member : m ∈ stub.methods) :
    (fresh m).Shows m (.fresh stub) where
  calls := by
    rw [Double.counter?_fresh member]
    rfl
  callback := by
    rw [Double.callback?, show (Double.fresh stub).stub = stub from rfl,
      Stub.slotKey_accessor member]
    exact congrArg Option.join (Double.get?_map_accessor member fun _ _ _ => rfl)
  static := by
    intro isReturning
    have listed : m ∈ stub.returning := List.mem_filter.mpr ⟨member, by simp [isReturning]⟩
    have alone : ∀ n ∈ stub.returning, n.accessor = m.accessor →
        (⟨n.initialAnswer, n.initialAnswer⟩ : StaticAnswer) =
          ⟨m.initialAnswer, m.initialAnswer⟩ := by
      intro n other same
      rw [List.inj_on_of_nodup_map distinct (List.mem_filter.mp other).1 member same]
    rw [Double.static?, show (Double.fresh stub).stub = stub from rfl,
      Stub.slotKey_accessor member]
    exact congrArg (Option.map (·.current)) (Double.get?_map_accessor listed alone)
  nested := rfl

/-- The slots of the parameters after a call: references by their address, and all else by copy. -/
structure Frame.Keeps (f : Frame) (m : InstrumentedMethod) (args params : List Datum) : Prop where
  length : params.length = m.arity
  slots : ∀ (place : Nat) (p : Parameter) (arg : Datum), m.method.parameters[place]? = some p →
    args[place]? = some arg → f.params place = some (.of p.type.isReference arg) ∧
      ∃ kept, params[place]? = some kept ∧ (Stored.of p.type.isReference arg).Holds kept

theorem Kept.holds {parameters : List Parameter} {args kept : List Datum} {h after : Heap}
    (keeps : Kept parameters args h kept after) {place : Nat} {p : Parameter} {arg : Datum}
    (parameter : parameters[place]? = some p) (passed : args[place]? = some arg) :
    ∃ d, kept[place]? = some d ∧ (Stored.of p.type.isReference arg).Holds d := by
  induction keeps generalizing place with
  | nil _ => cases parameter
  | @reference first _ d _ _ _ _ isReference _ ih =>
    cases place with
    | zero =>
      cases parameter
      cases passed
      refine ⟨_, rfl, ?_⟩
      rw [isReference]
      exact .address _
    | succ place => exact ih parameter passed
  | @value first _ d copy _ _ _ _ _ isValue copied _ ih =>
    cases place with
    | zero =>
      cases parameter
      cases passed
      refine ⟨_, rfl, ?_⟩
      rw [isValue]
      exact .copy copied
    | succ place => exact ih parameter passed

namespace Bench

variable {b between : Bench} {number fuel : Nat} {d : Double} {m : InstrumentedMethod} {f : Frame}
  {args : List Datum}

/-- A call has been taken: the slots of its method are those that a body leaves, and no other slot of
any double has changed. -/
structure Accepted (b between : Bench) (number : Nat) (d : Double) (m : InstrumentedMethod)
    (args : List Datum) (f : Frame) : Prop where
  accept : b.accept number m args = (between, .ok ())
  slots : ∃ params, between.double? number = some (d.setCounter m.accessor ⟨f.calls, params⟩) ∧
    f.Keeps m args params
  shows : ∀ after, between.double? number = some after → f.Shows m after
  generator : between.generator = b.generator
  others : ∀ n, n ≠ number → between.double? n = b.double? n

def handing (m : InstrumentedMethod) (made : Nat) (d : Double) : Double :=
  { d with nested := d.nested.set m.accessor made }

end Bench

namespace Bench

variable {t : SymbolTable} {lead interface : String} {names : List String}
  {b between : Bench} {number fuel : Nat} {d : Double} {m : InstrumentedMethod} {f : Frame}
  {args : List Datum}

theorem Accepted.double? {after : Frame} (accepted : b.Accepted between number d m args after) :
    ∃ d', between.double? number = some d' ∧ d'.stub = d.stub ∧ after.Shows m d' := by
  obtain ⟨params, there, _⟩ := accepted.slots
  exact ⟨_, there, rfl, accepted.shows _ there⟩

def lend : Method String :=
  { name := "lend"
    parameters := [⟨.primitive "int" false, .null⟩, ⟨.reference (.primitive "int" false) false, .null⟩]
    returnType := some (.pointer (.named "A" false) false), isPure := true
    isConst := false, visibility := .public }

def lendingInterface : Declaration String :=
  { name := "K", kind := .interface, bases := [], methods := [lend], fields := [], isFull := true
    unit := .null }

def lending (name : String) : SymbolTable :=
  (SymbolTable.merge
    [{ name := .null
       declarations :=
         [{ name, kind := .interface, bases := [], methods := [], fields := [], isFull := true
            unit := .null }, lendingInterface]
       bodies := [], header := .null }]).1

def lender (name : String) : Bench :=
  (empty ⟨lending name, none, .text "Stub", []⟩).run [.create (.text "K")]

/-- A double whose method is to be called, with all slots as they were set up. -/
structure Lends (name : String) (d : Double) (m : InstrumentedMethod) : Prop where
  built : (lending name).buildStub (.text "Stub") lendingInterface = .ok d.stub
  known : (lender name).double? 0 = some d
  fresh : d = .fresh d.stub
  member : m ∈ d.stub.methods
  accessor : m.accessor = "lend"
  method : m.method = lend
  kind : m.returnKind = .interfacePointer
  handed : m.nested = some name

theorem Lends.shows {name : String} (lends : Lends name d m) : (Frame.fresh m).Shows m d :=
  lends.fresh ▸ Frame.shows_fresh (SymbolTable.nodup_accessors lends.built) lends.member

end Bench
end Understudy
