import Understudy.CallGraph.Basic
import Understudy.Graph.Write
import Understudy.Stub.View

/-! The view of calls: build the graph of a table and write it where it is asked for. -/

set_option autoImplicit false

namespace Understudy

open Understudy.Settings

structure CallGraphView where
  graph : Graph
  tree : FileTree
  written : List String
  json : Option Value
  deriving DecidableEq, Repr

def SymbolTable.callGraph (t : SymbolTable) (classification : Option Classification)
    (settings : Entries) : Except Slip Graph := do
  let g ← CallGraph.build t.bodies
  match classification with
  | some c =>
    if ((settings.get? "include_types").getD .null).holds then return CallGraph.overlay g c.graph
    else return g
  | none => return g

/-- Whether a format comes with a node-link document. -/
def hasNodeLink (format : Value) : Bool := format == .text "json" || format == .text "all"

def formatOf (settings : Entries) : Value :=
  (settings.get? "graph_format").getD (.text "graphml")

/-- Write a graph to the output, if there is one. Any value goes by its text as an output. -/
def Graph.emit (g : Graph) (tree : FileTree) (output : Value) (settings : Entries) :
    Graph.Written × Option Graph.WriteFault :=
  if output.holds then g.write tree output.shown (formatOf settings) else (⟨tree, []⟩, none)

/-- Build the graph and write it to the output, if there is one. Files written before a fault
stay. -/
def SymbolTable.callGraphView (t : SymbolTable) (classification : Option Classification)
    (output settings : Value) (tree : FileTree) :
    FileTree × Except Graph.WriteFault CallGraphView :=
  let built := do
    let entries ← sectionEntries settings
    return (entries, ← t.callGraph classification entries)
  match built with
  | .error slip => (tree, .error (.slip slip))
  | .ok (entries, g) =>
    match g.emit tree output entries with
    | (w, some fault) => (w.tree, .error fault)
    | (w, none) =>
      let asked := output.holds && hasNodeLink (formatOf entries)
      let json := if asked then some g.toNodeLink else none
      (w.tree, .ok ⟨g, w.tree, w.names, json⟩)

end Understudy
