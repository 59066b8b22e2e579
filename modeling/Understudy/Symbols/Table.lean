import Understudy.Cpp.Body
import Understudy.Cpp.Validity
import Understudy.Diagnostic
import Understudy.Document.Unit

/-! The symbol table: one arena of declarations, in which all units meet.

The number of a declaration is its place in the arena and never changes: a full definition that
arrives after a forward declaration takes over its place. The table keeps an index by name and
one by short name.
-/

set_option autoImplicit false

namespace Understudy

open Understudy.Cpp

structure Malformed where
  name : Value
  reason : Malformation
  deriving DecidableEq, Repr

def Malformed.message (m : Malformed) : String :=
  "Malformed declaration '" ++ m.name.shown ++ "': " ++ m.reason.message

/-- What becomes of a record whose name has a place already. -/
inductive Revisit where
  /-- The record says nothing new. -/
  | passed
  /-- The record takes over the place of a forward declaration. -/
  | takesOver
  /-- The record is a second definition that differs from the first. -/
  | differs
  deriving DecidableEq, Repr

def Revisit.of {ν : Type} [DecidableEq ν] (kept d : Declaration ν) : Revisit :=
  if !d.isFull then .passed
  else if !kept.isFull then .takesOver
  else if kept.sameContent d then .passed
  else .differs

def duplicateReport (subject : Value) (what : String) (unit keptUnit : Value) : Diagnostic :=
  { kind := .duplicateDefinition
    subject
    message := .text (what ++ " from '" ++ unit.shown ++ "' differs from the one in '"
      ++ keptUnit.shown ++ "'; keeping the first") }

structure SymbolTable where
  declarations : List (Declaration String)
  bodies : List (FunctionBody String)
  headers : Assoc Value
  ids : Assoc Nat
  bodyIds : Assoc Nat
  shortNames : Assoc (List String)
  diagnostics : Diagnostics
  deriving DecidableEq, Repr

namespace SymbolTable

def empty : SymbolTable := ⟨[], [], [], [], [], [], []⟩

def idOf? (t : SymbolTable) (name : String) : Option Nat := t.ids.get? name

def get? (t : SymbolTable) (name : String) : Option (Declaration String) :=
  (t.idOf? name).bind (t.declarations[·]?)

def contains (t : SymbolTable) (name : String) : Bool := (t.idOf? name).isSome

def header? (t : SymbolTable) (name : String) : Option Value := t.headers.get? name

def report (t : SymbolTable) (d : Diagnostic) : SymbolTable :=
  { t with diagnostics := t.diagnostics.report d }

/-- Give a new declaration the next place of the arena. -/
def append (t : SymbolTable) (d : Declaration String) : SymbolTable :=
  { t with
    declarations := t.declarations ++ [d]
    ids := t.ids.set d.name t.declarations.length
    shortNames := t.shortNames.set d.short ((t.shortNames.get? d.short).getD [] ++ [d.name]) }

/-- Meet a declaration whose name has a place already; the answer tells whether the new one was
stored. -/
def revisit (t : SymbolTable) (id : Nat) (kept d : Declaration String) : SymbolTable × Bool :=
  match Revisit.of kept d with
  | .passed => (t, false)
  | .takesOver => ({ t with declarations := t.declarations.set id d }, true)
  | .differs => (t.report (duplicateReport (.text d.name) "definition" d.unit kept.unit), false)

def add (t : SymbolTable) (d : Declaration String) : Except Malformed (SymbolTable × Bool) :=
  match malformation? d with
  | some reason => .error ⟨.text d.name, reason⟩
  | none =>
    match t.idOf? d.name with
    | none => .ok (t.append d, true)
    | some id =>
      match t.declarations[id]? with
      | some kept => .ok (t.revisit id kept d)
      | none => .ok (t, false)

/-- Add a body; the first body of a name stays. -/
def addBody (t : SymbolTable) (b : FunctionBody String) : SymbolTable × Bool :=
  match t.bodyIds.get? b.name with
  | none =>
    ({ t with bodies := t.bodies ++ [b], bodyIds := t.bodyIds.set b.name t.bodies.length }, true)
  | some id =>
    match t.bodies[id]? with
    | some kept =>
      if kept.sameContent b then (t, false)
      else (t.report (duplicateReport (.text b.name) "body" b.unit kept.unit), false)
    | none => (t, false)

/-- Note the header of a stored declaration. A forward declaration's header gives way to that of
the full definition, and never replaces one. -/
def noteHeader (t : SymbolTable) (d : Declaration String) (header : Value) : SymbolTable :=
  if !header.holds then t
  else if d.isFull then { t with headers := t.headers.set d.name header }
  else { t with headers := t.headers.setNew d.name header }

def addDeclarations (header : Value) :
    SymbolTable → List (Declaration String) → SymbolTable × Option Malformed
  | t, [] => (t, none)
  | t, d :: rest =>
    match t.add d with
    | .error fault => (t, some fault)
    | .ok (t, stored) => addDeclarations header (if stored then t.noteHeader d header else t) rest

def addUnit (t : SymbolTable) (u : UnitRecord String) : SymbolTable × Option Malformed :=
  match t.addDeclarations u.header u.declarations with
  | (t, some fault) => (t, some fault)
  | (t, none) => (u.bodies.foldl (fun t b => (t.addBody b).1) t, none)

def addUnits : SymbolTable → List (UnitRecord String) → SymbolTable × Option Malformed
  | t, [] => (t, none)
  | t, u :: rest =>
    match t.addUnit u with
    | (t, some fault) => (t, some fault)
    | (t, none) => addUnits t rest

def interfaces (t : SymbolTable) : List (Declaration String) :=
  t.declarations.filter fun d => d.isInterface && d.isFull

end SymbolTable
end Understudy
