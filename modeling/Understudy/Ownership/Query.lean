import Understudy.Ownership.Classification
import Understudy.Value.Index

/-! Asking a classification by values as they are given.

Only texts name something; other plain values find nothing, and lists and objects cannot be
looked up at all.
-/

set_option autoImplicit false

namespace Understudy

open Understudy.Cpp

def Value.lookUpText {α : Type} (key : Value) (find : String → Option α) :
    Except Slip (Option α) :=
  match key with
  | .text s => .ok (find s)
  | v => if v.isPlain then .ok none else .error .wrongType

namespace Classification

def edgeAt (c : Classification) (source site : Value) : Except Slip (Option OwnershipEdge) := do
  let found ← source.lookUpText some
  let place ← site.lookUpText some
  return found.bind fun source => place.bind (c.ofSite? source)

def edgeOfField (c : Classification) (source name : Value) : Except Slip (Option OwnershipEdge) :=
  source.lookUpText (c.ofField? · name)

def edgeOfBase (c : Classification) (source name : Value) : Except Slip (Option OwnershipEdge) :=
  source.lookUpText (c.ofBase? · name.shown)

/-- The edge of a parameter; its site is spelled with the indices as they are given. -/
def edgeOfParameter (c : Classification) (d : Declaration String) (index position : Value) :
    Except Slip (Option OwnershipEdge) := do
  let m ← pickAt d.methods index
  return c.ofSite? d.name (Site.parameterText index.shown m.name position.shown)

def edgeOfResult (c : Classification) (d : Declaration String) (index : Value) :
    Except Slip (Option OwnershipEdge) := do
  let m ← pickAt d.methods index
  return c.ofSite? d.name (Site.resultText index.shown m.name)

/-- The edges of a source; what is no text is the source of none. -/
def edgesFromValue (c : Classification) (source : Value) : List OwnershipEdge :=
  (source.text?.map c.edgesFrom).getD []

def ownedTargetsOf (c : Classification) (source : Value) : List String :=
  (source.text?.map c.ownedTargets).getD []

def positionOf (c : Classification) (name : Value) : Except Slip (Option Nat) :=
  name.lookUpText c.position?

/-- The parts of a value in dependency order; what is unknown comes last as it was given. -/
def sortParts (c : Classification) (names : Value) : Except Slip (List Value) :=
  match names.parts? with
  | none => .error .wrongType
  | some parts => do
    let positions ← parts.mapM c.positionOf
    let known := (parts.zip positions).filterMap fun (v, position) =>
      if position.isSome then v.text? else none
    let unknown := (parts.zip positions).filterMap fun (v, position) =>
      if position.isNone then some v else none
    return (c.sort known).map .text ++ unknown

end Classification
end Understudy
