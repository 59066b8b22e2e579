import Understudy.Double.Slots
import Understudy.Stub.Override

/-! What the body of an override does to the slots of its method.

Statements are run one after the other. A body counts the call and fills all slots of parameters before
it looks for a callback, and what it finds in the slots then decides where it ends.
-/

set_option autoImplicit false

namespace Understudy

open Understudy.Cpp

/-- What is kept of an argument: where it lies, or a copy of it. -/
inductive Stored where
  | address (d : Datum)
  | copy (d : Datum)
  deriving DecidableEq, Repr

def Stored.of (byAddress : Bool) (d : Datum) : Stored := if byAddress then .address d else .copy d

structure Frame where
  calls : Nat
  /-- By the place of the parameter. -/
  params : Nat → Option Stored
  callback : Option Callback
  static : Datum
  nested : Option Nat

inductive Exit where
  /-- With a call of the callback. What it answers is returned, or some statements are left. -/
  | callback (callback : Callback) (args : List Datum) (left : Option (List Statement))
  /-- With the static slot, or what it points to. -/
  | static (d : Datum) (dereferenced : Bool)
  /-- With the nested double, or its address. -/
  | nested (address : Bool)
  | nothing
  deriving DecidableEq, Repr

namespace Frame

def count (f : Frame) : Frame := { f with calls := f.calls + 1 }

def store (f : Frame) (index : Nat) (stored : Option Stored) : Frame :=
  { f with params := fun place => if place = index then stored else f.params place }

/-- Run statements in a call with some arguments, up to where they end or hand over. -/
def run (args : List Datum) : List Statement → Frame → Frame × Exit
  | [], f => (f, .nothing)
  | .count :: rest, f => run args rest f.count
  | .store index byAddress :: rest, f =>
    run args rest (f.store index ((args[index]?).map (Stored.of byAddress)))
  | .handOver returns :: rest, f =>
    match f.callback with
    | some callback => (f, .callback callback args (if returns then none else some rest))
    | none => run args rest f
  | .returnStaticIfSet dereferenced :: rest, f =>
    if f.static.isNothing then run args rest f else (f, .static f.static dereferenced)
  | .returnStatic :: _, f => (f, .static f.static false)
  | .returnNested address :: _, f => (f, .nested address)

variable {f : Frame} {args : List Datum} {m : InstrumentedMethod}

def storing (f : Frame) (args : List Datum) (params : List Parameter) (first : Nat) : Frame :=
  { f with
    params := fun place =>
      if first ≤ place then
        match params[place - first]? with
        | some p => (args[place]?).map (Stored.of p.type.isReference)
        | none => f.params place
      else f.params place }

def after (f : Frame) (m : InstrumentedMethod) (args : List Datum) : Frame :=
  f.count.storing args m.method.parameters 0

def ownExit (f : Frame) : ReturnKind → Exit
  | .void => .nothing
  | .value | .reference => .static f.static false
  | .interfaceReference => if f.static.isNothing then .nested false else .static f.static true
  | .interfacePointer => if f.static.isNothing then .nested true else .static f.static false

def exit (f : Frame) (m : InstrumentedMethod) (args : List Datum) : Exit :=
  match f.callback with
  | some callback => .callback callback args (if m.isVoid then some [] else none)
  | none => f.ownExit m.returnKind

end Frame

end Understudy
