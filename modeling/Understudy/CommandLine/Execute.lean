import Understudy.CommandLine.Request
import Understudy.Run.Basic
import Understudy.Settings.Load

/-! Executing a command line on a tree of files.

Mistakes on the command line and in settings end with status 2, faults that lie in the units with
status 1. Settings of a wrong shape and files that cannot be written break the execution off.
-/

set_option autoImplicit false

namespace Understudy.CommandLine

open Understudy.Settings

inductive Breakdown where
  | slip (slip : Slip)
  | run (fault : RunFault)
  deriving DecidableEq, Repr

def Breakdown.message : Breakdown → String
  | .run (.file fault) | .run (.graph (.file fault)) => fault.message
  | .run (.load (.encoding fault)) => fault.message
  | .slip _ | .run _ => "a document or a setting does not have the form that is needed"

structure Execution where
  tree : FileTree
  output : String
  messages : String
  status : Except Breakdown Nat

def lines (texts : List String) : String := String.join (texts.map (· ++ "\n"))

def refuse (tree : FileTree) (speaker message : String) : Execution :=
  ⟨tree, "", speaker ++ ": error: " ++ message ++ "\n", .ok 2⟩

def Verbosity.level : Verbosity → LogLevel
  | .quiet => .error
  | .normal => .warning
  | .verbose => .debug

def settingsMessage : Settings.Fault → Except Breakdown String
  | .encoding fault => .ok fault.message
  | .plain reason => .ok reason
  | .slip slip => .error (.slip slip)
  | fault => .ok (fault.message?.getD "")

def withFormat (settings : Entries) : Option String → Except Slip Entries
  | none => .ok settings
  | some format => apply settings ⟨"callgraph", "graph_format", .text format⟩

/-- The value of an option; a double dash stands for an empty list. -/
def optionValue (given : Option String) : Value := (given.map Value.text).getD (.list [])

def Request.toRun (r : Request) (settings : Entries) (output : Path) : RunRequest where
  views := .list (r.command.views.map .text)
  interfaces := (r.interfaces.map fun names => Value.list (names.map optionValue)).getD .null
  settings := .object settings
  output := .text output.text

def executeWith (tree : FileTree) (r : Request) (settings : Entries) (output : Path) :
    Execution :=
  let (result, w) :=
    (runFiles (r.units.map Path.ofString) (r.toRun settings output)).run.run ⟨tree, []⟩
  let logged (more : List LogLine) : String :=
    lines ((fromLevel r.verbosity.level (w.log ++ more)).map LogLine.text)
  match result with
  | .ok result =>
    { tree := w.tree
      output := lines (result.artifacts.map fun path => "Wrote " ++ path.text)
      messages := logged []
        ++ lines (result.table.diagnostics.map fun d => "diagnostic: " ++ d.text)
      status := .ok 0 }
  | .error fault =>
    match fault.verdict? with
    | some verdict => ⟨w.tree, "", logged [⟨.error, verdict⟩], .ok 1⟩
    | none => ⟨w.tree, "", logged [], .error (.run fault)⟩

def breakOff (tree : FileTree) (slip : Slip) : Execution := ⟨tree, "", "", .error (.slip slip)⟩

def Request.execute (r : Request) (tree : FileTree) : Execution :=
  let config := (r.config.map Value.text).getD .null
  match Settings.load tree config (.list (r.options.map optionValue)) with
  | .error fault =>
    match settingsMessage fault with
    | .ok message => refuse tree program message
    | .error breakdown => ⟨tree, "", "", .error breakdown⟩
  | .ok settings =>
    match withFormat settings r.format, Document.pathOf (optionValue r.out) with
    | .error slip, _ | _, .error slip => breakOff tree slip
    | .ok settings, .ok output => executeWith tree r settings output

def Request.paths (r : Request) : List Path :=
  let out := Path.ofString (r.out.getD ".")
  let documents := ["callgraph.graphml", "callgraph.json"].map fun n => out.append (Path.ofString n)
  (r.units ++ r.config.toList).map Path.ofString ++ out :: documents

def execute (tree : FileTree) (words : List String) : Execution :=
  match Request.ofWords words with
  | .ok request => request.execute tree
  | .error ⟨speaker, .usage fault⟩ => refuse tree speaker fault.message
  | .error ⟨speaker, .help⟩ => ⟨tree, "usage: " ++ speaker ++ "\n", "", .ok 0⟩

end Understudy.CommandLine
