import Understudy.Symbols.Table

/-! Name resolution and the merge of units.

A name is looked for in the scopes around it from the inside out, then globally, then among all
names that end in it, where it has to be the only one.
-/

set_option autoImplicit false

namespace Understudy

open Understudy.Cpp

/-- A scope and its non-empty parents, innermost first. The fuel bounds their number. -/
def scopesFrom : Nat → String → List String
  | 0, _ => []
  | fuel + 1, scope =>
    if scope.isEmpty then []
    else
      scope ::
        match parentScope? scope with
        | some parent => scopesFrom fuel parent
        | none => []

def scopesOf (context : String) : List String := scopesFrom (context.length + 1) context

namespace SymbolTable

def uniqueByShortName? (t : SymbolTable) (name : String) : Option String :=
  let candidates := (t.shortNames.get? (shortName name)).getD []
  match candidates.filter fun c => c == name || endsInScoped c name with
  | [found] => some found
  | _ => none

/-- Resolve a name as it is used inside a context; the empty context is the global scope. -/
def resolve? (t : SymbolTable) (name : String) (context : String) : Option (Declaration String) :=
  match absolute? name with
  | some rest => t.get? rest
  | none =>
    ((scopesOf context).findSome? fun scope => t.get? (qualify scope name)).or
      ((t.get? name).or ((t.uniqueByShortName? name).bind t.get?))

def unresolvedBase (subject base : String) : Diagnostic :=
  .note .unresolvedReference subject ("base '" ++ base ++ "' is not declared in any unit")

def namedBases (t : SymbolTable) : List (String × String) :=
  t.declarations.flatMap fun d => d.bases.map (d.name, ·)

def baseReport? (t : SymbolTable) (context base : String) : Option Diagnostic :=
  if (t.resolve? base context).isNone then some (unresolvedBase context base) else none

def checkBases (t : SymbolTable) : SymbolTable :=
  { t with
    diagnostics := t.diagnostics.reportAll
      (t.namedBases.filterMap fun (context, base) => t.baseReport? context base) }

/-- Merge units in order into one table. After a refusal the table is left as it was then. -/
def merge (units : List (UnitRecord String)) : SymbolTable × Option Malformed :=
  match empty.addUnits units with
  | (t, some fault) => (t, some fault)
  | (t, none) => (t.checkBases, none)

end SymbolTable
end Understudy
