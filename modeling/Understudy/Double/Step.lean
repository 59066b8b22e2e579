import Understudy.Double.Invoke

/-! What a test does with a bench, step by step.

Whatever a step comes to, a fault included, the next one goes on from where it left the bench.
-/

set_option autoImplicit false

namespace Understudy

inductive TestStep where
  | create (name : Value)
  | place (value : Value)
  | hold (handle : Value) (d : Datum)
  | assign (name : Value) (d : Datum)
  | invoke (number : Nat) (key : Value) (args : List Datum)
  | call (d : Datum) (name : Value) (args : List Datum)
  | nested (number : Nat) (key : Value)
  | setStatic (number : Nat) (access : Double.Access) (key : Value) (answer : Datum)
  | setCallback (number : Nat) (access : Double.Access) (key : Value) (callback : Option Callback)
  | reset (number : Nat) (space : Space) (access : Double.Access) (key : Value)
  | resetAll (number : Nat)
  deriving DecidableEq, Repr

namespace Bench

/-- Change a slot of a double that is there. -/
def atSlot (b : Bench) (number : Nat) (space : Space) (access : Double.Access) (key : Value)
    (change : String → Bench) : Outcome :=
  match b.double? number with
  | none => b.slipping .noMember
  | some d =>
    match d.locateGiven space access key with
    | .error fault => (b, .error fault)
    | .ok accessor => (change accessor, .ok .nothing)

def registering (b : Bench) (registry : Except Slip Registry) (change : Registry → Bench) :
    Outcome :=
  match registry with
  | .error slip => b.slipping slip
  | .ok registry => (change registry, .ok .nothing)

def take (b : Bench) : TestStep → Outcome
  | .create name =>
    match b.createGiven name with
    | (b, .error fault) => (b, .error (.generate fault))
    | (b, .ok number) => (b, .ok (.double number))
  | .place value => b.working (Work.place value)
  | .hold handle d => b.registering (b.handles.hold handle d) fun handles => { b with handles }
  | .assign name d => b.registering (b.locals.hold name d) fun locals => { b with locals }
  | .invoke number key args => b.withKeyValue key fun key => b.invoke number key args
  | .call d name args => b.callHeld d name args
  | .nested number key => b.withKeyValue key (b.nested number)
  | .setStatic number access key answer =>
    b.atSlot number .static access key fun accessor => b.update number (·.setStatic accessor answer)
  | .setCallback number access key callback =>
    b.atSlot number .callback access key fun accessor =>
      b.update number (·.setCallback accessor callback)
  | .reset number space access key =>
    b.atSlot number space access key fun accessor => b.reset number space accessor
  | .resetAll number =>
    if (b.double? number).isSome then (b.resetAll number, .ok .nothing) else b.slipping .noMember

/-- Take steps one after the other. -/
def run (b : Bench) (steps : List TestStep) : Bench := steps.foldl (fun b s => (b.take s).1) b

end Bench
end Understudy
