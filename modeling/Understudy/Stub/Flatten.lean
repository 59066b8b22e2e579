import Understudy.Symbols.Resolve

/-! The methods that a double of an interface has to override.

Declarations are visited depth first: the interface itself, then its bases in order, each once.
A signature reached over several paths is kept from where it was met first.
-/

set_option autoImplicit false

namespace Understudy

open Understudy.Cpp

/-- What a walk over bases meets. -/
inductive Encounter where
  | visited (d : Declaration String)
  /-- A base of a declaration that is not declared, or found only as a forward declaration. -/
  | missing (declaring base : String) (forward : Option String)
  deriving DecidableEq, Repr

/-- The names visited so far, and what was met, in order. -/
structure Walk where
  seen : List String
  met : List Encounter
  deriving DecidableEq, Repr

namespace SymbolTable

/-- Walk a declaration and its bases, leaving out declarations already seen. Every step inwards
sees a new declaration, and the fuel bounds their number. -/
def walkFrom (t : SymbolTable) : Nat → Walk → Declaration String → Walk
  | 0, w, _ => w
  | fuel + 1, w, d =>
    if w.seen.contains d.name then w
    else
      d.bases.foldl
        (fun w base =>
          match t.resolve? base d.name with
          | none => { w with met := w.met ++ [.missing d.name base none] }
          | some b =>
            if b.isFull then t.walkFrom fuel w b
            else { w with met := w.met ++ [.missing d.name base (some b.name)] })
        ⟨w.seen ++ [d.name], w.met ++ [.visited d]⟩

def walk (t : SymbolTable) (d : Declaration String) : List Encounter :=
  (t.walkFrom (t.declarations.length + 2) ⟨[], []⟩ d).met

end SymbolTable

abbrev Inherited := String × Method String

def pureMethods (d : Declaration String) : List Inherited :=
  (d.methods.filter (·.isPure)).map (d.name, ·)

def firstBySignature : List Signature → List Inherited → List Inherited
  | _, [] => []
  | known, (declaring, m) :: rest =>
    if known.contains m.signature then firstBySignature known rest
    else (declaring, m) :: firstBySignature (known ++ [m.signature]) rest

/-- Whether a method has to be overridden: a pure assignment, or a pure ordinary method. -/
def isOverridden (owner : String) (m : Method String) : Bool :=
  m.isPure && (isOrdinary owner m || specialMember? owner m == some .assignment)

structure Flattened where
  methods : List Inherited
  passthrough : List Inherited
  unresolved : List String
  reports : List Diagnostic
  isSpelled : Bool
  deriving DecidableEq, Repr

namespace Encounter

def declaration? : Encounter → Option (Declaration String)
  | .visited d => some d
  | .missing .. => none

def unresolved? : Encounter → Option String
  | .visited _ => none
  | .missing _ base _ => some base

def report? : Encounter → Option Diagnostic
  | .visited _ => none
  | .missing declaring base none => some (SymbolTable.unresolvedBase declaring base)
  | .missing declaring _ (some name) =>
    some (.note .unresolvedReference declaring ("base '" ++ name ++ "' is only forward declared"))

def isSpelled : Encounter → Bool
  | .visited d => (d.methods.filter (isOverridden d.name)).all (·.isSpelled)
  | .missing .. => true

end Encounter

/-- Ordinary pure methods, pure assignments, and bases that could not be followed. Reports end at
the first declaration of which a method to override has no signature. -/
def SymbolTable.flatten (t : SymbolTable) (d : Declaration String) : Flattened :=
  let met := t.walk d
  let pure_ := (met.filterMap (·.declaration?)).flatMap pureMethods
  { methods := firstBySignature [] (pure_.filter fun (owner, m) => isOrdinary owner m)
    passthrough := firstBySignature []
      (pure_.filter fun (owner, m) => specialMember? owner m == some .assignment)
    unresolved := met.filterMap (·.unresolved?)
    reports := (met.takeWhile (·.isSpelled)).filterMap (·.report?)
    isSpelled := met.all (·.isSpelled) }

end Understudy
