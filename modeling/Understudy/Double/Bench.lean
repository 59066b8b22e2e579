import Understudy.Double.Cursor
import Understudy.Double.Heap
import Understudy.Double.Quoted
import Understudy.Double.Slots
import Understudy.Value.Alike

/-! The bench on which live doubles stand, numbered in the order of their creation.

Beside the doubles lie the data of the test: variables, and handles that hold doubles or what
calls have answered.
-/

set_option autoImplicit false

namespace Understudy

/-- Data under names, in the order in which the names were first used. -/
abbrev Registry := List (Value × Datum)

namespace Registry

def find (r : Registry) (name : Value) : Except Slip Datum :=
  if !name.isPlain then .error .wrongType
  else
    match List.find? (fun entry => entry.1.equal name) r with
    | some (_, d) => .ok d
    | none => .error .noKey

def hold (r : Registry) (name : Value) (d : Datum) : Except Slip Registry :=
  if !name.isPlain then .error .wrongType
  else if r.any (·.1.equal name) then
    .ok (r.map fun (other, held) => if other.equal name then (other, d) else (other, held))
  else .ok (r ++ [(name, d)])

def nameOf? (r : Registry) (d : Datum) : Option Value := (List.find? (·.2 == d) r).map (·.1)

end Registry

/-- What befalls a counter. -/
inductive Entry where
  /-- A method of a double takes a call with these arguments, with the heap as it then is. -/
  | call (number : Nat) (method : InstrumentedMethod) (args : List Datum) (heap : Heap)
  /-- The counter under an accessor of a double goes back to its first state. -/
  | reset (number : Nat) (accessor : String)
  /-- All counters of a double do. -/
  | resetAll (number : Nat)
  deriving DecidableEq, Repr

structure Bench where
  generator : Generator
  heap : Heap
  doubles : List Double
  handles : Registry
  locals : Registry
  /-- What has befallen the counters so far, calls inside calls in the order in which they start.
  Nothing is decided by it. -/
  journal : List Entry
  deriving DecidableEq, Repr

namespace Bench

def empty (generator : Generator) : Bench := ⟨generator, .empty, [], [], [], []⟩

def double? (b : Bench) (number : Nat) : Option Double := b.doubles[number]?

def note (b : Bench) (e : Entry) : Bench := { b with journal := b.journal ++ [e] }

def update (b : Bench) (number : Nat) (change : Double → Double) : Bench :=
  { b with doubles := b.doubles.modify number change }

theorem double?_update_self (b : Bench) (number : Nat) (change : Double → Double) :
    (b.update number change).double? number = (b.double? number).map change := by
  simp [update, double?]

theorem double?_update_ne (b : Bench) {number other : Nat} (change : Double → Double)
    (h : number ≠ other) : (b.update number change).double? other = b.double? other := by
  simp [update, double?, h]

def create (b : Bench) (name : String) : Bench × Except GenerateFault Nat :=
  match b.generator.generate name with
  | (generator, .error fault) => ({ b with generator }, .error fault)
  | (generator, .ok stub) =>
    match Double.ofStub stub with
    | .error slip => ({ b with generator }, .error (.slip slip))
    | .ok d => ({ b with generator, doubles := b.doubles ++ [d] }, .ok b.doubles.length)

def createGiven (b : Bench) (name : Value) : Bench × Except GenerateFault Nat :=
  match name with
  | .text name => b.create name
  | _ => (b, .error (.slip .noMember))

def numberUnder (b : Bench) (handle : Value) : Except Slip Nat := do
  match ← b.handles.find handle with
  | .double number => return number
  | _ => .error .noMember

def label (b : Bench) (number : Nat) : String := Double.labelIn b.doubles number

def quoted (b : Bench) (d : Datum) : String := b.heap.quoted b.label d

def onHeap {α : Type} (b : Bench) (work : Work α) : Bench × Except Slip α :=
  let (result, heap) := work.run.run b.heap
  ({ b with heap }, result)

/-- Keep the arguments of a call: references as they are, all else as copies, if all of it can be
copied. -/
def keep : List Cpp.Parameter → List Datum → Work (List Datum)
  | p :: params, d :: args => do
    let kept ← if p.type.isReference then pure d else Work.copy d
    return kept :: (← keep params args)
  | _, _ => pure []

def count (b : Bench) (number : Nat) (m : InstrumentedMethod) : Bench :=
  b.update number fun d =>
    let counter := (d.counter? m.accessor).getD .fresh
    d.setCounter m.accessor { counter with calls := counter.calls + 1 }

/-- Count a call of a method and keep its arguments. The call is counted even if they cannot be
kept. -/
def record (b : Bench) (number : Nat) (m : InstrumentedMethod) (args : List Datum) :
    Bench × Except Slip Unit :=
  match (b.count number m).onHeap (keep m.method.parameters args) with
  | (b, .error slip) => (b, .error slip)
  | (b, .ok params) =>
    (b.update number fun d =>
      d.setCounter m.accessor { (d.counter? m.accessor).getD .fresh with params }, .ok ())

def accept (b : Bench) (number : Nat) (m : InstrumentedMethod) (args : List Datum) :
    Bench × Except Slip Unit :=
  (b.note (.call number m args b.heap)).record number m args

def reset (b : Bench) (number : Nat) (space : Space) (key : String) : Bench :=
  let accessor := ((b.double? number).map (·.stub.slotKey key)).getD key
  let noted :=
    match space with
    | .counter => b.note (.reset number accessor)
    | .callback | .static => b
  noted.update number (·.reset space key)

def resetSpace (b : Bench) (number : Nat) (space : Space) : Bench :=
  let noted :=
    match space with
    | .counter => b.note (.resetAll number)
    | .callback | .static => b
  noted.update number (·.resetSpace space)

def resetAll (b : Bench) (number : Nat) : Bench :=
  (b.note (.resetAll number)).update number Double.resetAll

end Bench

end Understudy
