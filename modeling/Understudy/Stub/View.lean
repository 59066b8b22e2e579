import Understudy.Document.Load
import Understudy.Stub.Generator
import Understudy.Stub.Header

/-! The view of doubles: generate those that are asked for and render their header. -/

set_option autoImplicit false

namespace Understudy

open Understudy.Cpp

/-- The entries of a section of settings; a section that is nothing has none. -/
def sectionEntries : Value → Except Slip Entries
  | .null => .ok []
  | .object entries => .ok entries
  | _ => .error .noMember

def Generator.generateGiven (g : Generator) (name : Value) :
    Generator × Except GenerateFault Stub :=
  match name with
  | .text name => g.generate name
  | _ => (g, .error (.slip .noMember))

def Generator.generateNamed (g : Generator) (names : List Value) :
    Generator × Option GenerateFault :=
  let texts := (names.map Value.text?).takeWhile (·.isSome) |>.filterMap id
  match g.generateEach texts with
  | (g, some fault) => (g, some fault)
  | (g, none) =>
    (g, if texts.length < names.length then some (.slip .noMember) else none)

/-- Whether a number of workers is more than one; only numbers and truth values are compared. -/
def moreThanOne : Value → Except Slip Bool
  | .bool _ => .ok false
  | .int n => .ok (1 < n)
  | .real x => .ok x.gtOne
  | _ => .error .wrongType

/-- The names to generate: all interfaces where nothing is asked for, else the parts of what is.
The number of workers changes no result, but it has to be a number. -/
def requestedNames (t : SymbolTable) (asked workers : Value) : Except Slip (List Value) := do
  let _ ← moreThanOne workers
  match asked with
  | .null => return t.interfaces.map fun d => .text d.name
  | v =>
    match v.parts? with
    | some parts => return parts
    | none => .error .wrongType

def Generator.generateAsked (g : Generator) (asked workers : Value) :
    Generator × Option GenerateFault :=
  match requestedNames g.table asked workers with
  | .error slip => (g, some (.slip slip))
  | .ok names => g.generateNamed names

structure StubView where
  generator : Generator
  stubs : List Stub
  source : String
  deriving DecidableEq, Repr

/-- Generate and render. What generation reports is kept even if it fails. -/
def SymbolTable.stubView (t : SymbolTable) (classification : Option Classification)
    (asked settings : Value) : Generator × Except GenerateFault StubView :=
  let start (lead : Value) : Generator := ⟨t, classification, lead, []⟩
  match sectionEntries settings with
  | .error slip => (start .null, .error (.slip slip))
  | .ok entries =>
    let lead := (entries.get? "prefix").getD (.text "Stub")
    let workers := (entries.get? "workers").getD (.int 1)
    match (start lead).generateAsked asked workers with
    | (g, some fault) => (g, .error fault)
    | (g, none) =>
      match renderHeader (some g.table) g.table.diagnostics entries g.stubs with
      | .error slip => (g, .error (.slip slip))
      | .ok source => (g, .ok ⟨g, g.stubs, source⟩)

end Understudy
