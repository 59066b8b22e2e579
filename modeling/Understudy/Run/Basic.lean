import Understudy.CallGraph.View
import Understudy.Double.Slots
import Understudy.Stub.View
import Understudy.Symbols.Intake

/-! Runs: merge units, classify their declarations, and produce the views that are asked for.

A run works on a tree of files and keeps a log. Both stand as they were left when it fails.
-/

set_option autoImplicit false

namespace Understudy

inductive LogLevel where
  | debug
  | info
  | warning
  | error
  deriving DecidableEq, Repr

namespace LogLevel

def keyword : LogLevel → String
  | .debug => "DEBUG"
  | .info => "INFO"
  | .warning => "WARNING"
  | .error => "ERROR"

def rank : LogLevel → Nat
  | .debug => 0
  | .info => 1
  | .warning => 2
  | .error => 3

end LogLevel

structure LogLine where
  level : LogLevel
  message : String
  deriving DecidableEq, Repr

def LogLine.text (l : LogLine) : String := l.level.keyword ++ ": " ++ l.message

def fromLevel (level : LogLevel) (log : List LogLine) : List LogLine :=
  log.filter fun l => level.rank ≤ l.level.rank

open Understudy.Cpp

inductive View where
  | stub
  | callGraph
  deriving DecidableEq, Repr

def View.ofName? : Value → Option View
  | .text "stub" => some .stub
  | .text "callgraph" => some .callGraph
  | _ => none

structure RunRequest where
  views : Value
  /-- The interfaces to double, all where this is nothing. -/
  interfaces : Value
  settings : Value
  /-- The directory to write to, nothing where nothing is to be written. -/
  output : Value
  deriving DecidableEq, Repr

inductive RunFault where
  | unknownViews (names : List String)
  | load (fault : Document.LoadFault)
  | intake (fault : IntakeFault)
  | order (fault : OrderFault)
  | generate (fault : GenerateFault)
  | graph (fault : Graph.WriteFault)
  | file (fault : FileFault)
  | slip (slip : Slip)
  deriving DecidableEq, Repr

/-- The text of a fault that lies in the units or in what is asked of them. All other faults lie
in settings, files or broken documents. -/
def RunFault.verdict? : RunFault → Option String
  | .load (.unreadable path reason) => some (Document.unreadableMessage path reason)
  | .load (.unit fault) => fault.message?
  | .intake (.malformed fault) => some fault.message
  | .order (.cycle names) => some (OrderFault.cycleMessage names)
  | .generate (.interface fault) => some fault.message
  | _ => none

def RunFault.viewMessage (names : List String) : String :=
  "Unknown view(s): " ++ ", ".intercalate names

structure Workspace where
  tree : FileTree
  log : List LogLine
  deriving DecidableEq, Repr

abbrev Stage := ExceptT RunFault (StateM Workspace)

structure RunResult where
  table : SymbolTable
  classification : Classification
  generator : Option Generator
  stubs : List Stub
  source : Option String
  callGraph : Option Graph
  artifacts : List Path
  deriving DecidableEq, Repr

namespace Stage

def log (level : LogLevel) (message : String) : Stage Unit :=
  modify fun w => { w with log := w.log ++ [⟨level, message⟩] }

def warn (before after : Diagnostics) : Stage Unit :=
  (after.drop before.length).forM fun d => log .warning d.text

def attempt {ε α : Type} (fault : ε → RunFault) : Except ε α → Stage α
  | .ok a => pure a
  | .error e => throw (fault e)

def merge (units : List (UnitRecord Value)) : Stage SymbolTable := do
  let (t, fault) := SymbolTable.mergeDocuments units
  warn [] t.diagnostics
  if let some fault := fault then throw (.intake fault)
  log .debug ("Merged " ++ toString units.length ++ " unit(s): " ++ toString t.declarations.length
    ++ " declaration(s), " ++ toString t.bodies.length ++ " body record(s)")
  return t

def classify (t : SymbolTable) : Stage (SymbolTable × Classification) := do
  let (classified, result) := t.classify
  warn t.diagnostics classified.diagnostics
  let c ← attempt .order result
  log .debug ("Classified " ++ toString c.edges.length ++ " edge(s) over "
    ++ toString t.declarations.length ++ " declaration(s)")
  return (classified, c)

/-- The views that are asked for. Unknown names are refused all at once. -/
def viewsOf (asked : Value) : Stage (List View) := do
  let some names := asked.parts? | throw (.slip .wrongType)
  match names.filter fun name => (View.ofName? name).isNone with
  | [] => return names.filterMap View.ofName?
  | unknown =>
    let some texts := unknown.mapM Value.text? | throw (.slip .wrongType)
    throw (.unknownViews texts)

def makeOutput (output : Value) : Stage (Option Path) := do
  match output with
  | .null => return none
  | output =>
    let directory ← attempt .slip (Document.pathOf output)
    let tree ← attempt .file ((← get).tree.makeDirectories directory)
    modify fun w => { w with tree }
    return some directory

def writeText (path : Path) (text : String) : Stage Unit := do
  let tree ← attempt .file ((← get).tree.write path text)
  modify fun w => { w with tree }

def headerPath (settings : Entries) (output : Option Path) : Stage (Option Path) := do
  match output with
  | none => return none
  | some directory =>
    let base ← attempt .slip (Settings.lookUp settings "stub" "basename")
    return some (directory.append (Path.ofString (base.shown ++ ".hpp")))

def stubs (t : SymbolTable) (c : Classification) (interfaces : Value) (settings : Entries)
    (output : Option Path) : Stage (StubView × List Path) := do
  let file ← headerPath settings output
  -- what was generated before a fault is logged too
  let (g, result) := t.stubView (some c) interfaces (Settings.group settings "stub")
  warn t.diagnostics g.table.diagnostics
  g.memo.forM fun (interface, stub) =>
    log .debug ("Generated " ++ stub.name ++ " for " ++ interface)
  let view ← attempt .generate result
  log .info ("Generated " ++ toString view.stubs.length ++ " test double(s)")
  match file with
  | none => return (view, [])
  | some file =>
    writeText file view.source
    log .debug ("Wrote stub header to " ++ file.text)
    return (view, [file])

def sizes (g : Graph) (between : String) : String :=
  toString g.nodes.length ++ " node(s)" ++ between ++ toString g.grouped.length ++ " edge(s)"

def documentKind (name : String) : String :=
  if name.endsWith ".json" then "node-link JSON" else "GraphML"

def callGraph (t : SymbolTable) (c : Classification) (settings : Entries)
    (output : Option Path) : Stage (Graph × List Path) := do
  let entries ← attempt .slip (sectionEntries (Settings.group settings "callgraph"))
  let plain ← attempt .slip (CallGraph.build t.bodies)
  log .debug ("Call graph: " ++ sizes plain ", ")
  let g ← attempt .slip (t.callGraph (some c) entries)
  log .info ("Built call graph with " ++ sizes g " and ")
  let file := output.map fun d => (d.append (Path.ofString "callgraph.graphml")).text
  let (written, fault) := g.emit (← get).tree ((file.map Value.text).getD .null) entries
  modify fun w => { w with tree := written.tree }
  written.names.forM fun name => log .debug ("Wrote " ++ documentKind name ++ " to " ++ name)
  -- a format that comes first stays written when a later one fails
  if let some fault := fault then throw (.graph fault)
  return (g, written.names.map Path.ofString)

end Stage

open Stage in
def run (units : List (UnitRecord Value)) (request : RunRequest) : Stage RunResult := do
  let views ← viewsOf request.views
  let settings ← attempt .slip (Settings.complete request.settings)
  let (t, c) ← classify (← merge units)
  -- nothing is written before the units are known to be sound
  let output ← makeOutput request.output
  let stubbed ←
    if views.contains .stub then some <$> stubs t c request.interfaces settings output
    else pure none
  let graphed ←
    if views.contains .callGraph then some <$> callGraph t c settings output else pure none
  let t := (stubbed.map (·.1.generator.table)).getD t
  let artifacts := (stubbed.map (·.2)).getD [] ++ (graphed.map (·.2)).getD []
  log .info ("Run finished over " ++ toString units.length ++ " unit(s): "
    ++ toString artifacts.length ++ " artifact(s), " ++ toString t.diagnostics.length
    ++ " diagnostic(s)")
  return { table := t
           classification := c
           generator := stubbed.map (·.1.generator)
           stubs := (stubbed.map (·.1.stubs)).getD []
           source := stubbed.map (·.1.source)
           callGraph := graphed.map (·.1)
           artifacts }

open Stage in
def Stage.load (path : Path) : Stage (UnitRecord Value) := do
  let unit ← attempt .load (Document.loadUnit (← get).tree path)
  log .debug ("Loaded unit " ++ unit.name.shown ++ " from " ++ path.text)
  return unit

open Stage in
/-- Load unit documents in their order and run over them. The number of workers changes no
result, but it has to be a number. -/
def runFiles (paths : List Path) (request : RunRequest) : Stage RunResult := do
  let settings ← attempt .slip (Settings.complete request.settings)
  let workers ← attempt .slip (Settings.lookUp settings "loader" "workers")
  let _ ← attempt .slip (Document.atMostOne workers)
  run (← paths.mapM load) request

inductive RunDoubleFault where
  | noStubView
  | generate (fault : GenerateFault)
  deriving DecidableEq, Repr

def RunDoubleFault.message? : RunDoubleFault → Option String
  | .noStubView => some "the stub view was not part of this run"
  | .generate (.interface fault) => some fault.message
  | .generate (.slip _) => none

def RunResult.double (r : RunResult) (name : Value) : Except RunDoubleFault Double := do
  match r.generator with
  | none => .error .noStubView
  | some g =>
    let stub ← (g.generateGiven name).2.mapError .generate
    (Double.ofStub stub).mapError fun slip => .generate (.slip slip)

end Understudy
