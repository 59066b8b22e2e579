import Understudy.Files.Tree
import Understudy.Graph.Basic
import Understudy.Graph.Markup
import Understudy.Settings.Basic
import Understudy.Value.Writer

/-! Node-link documents, and writing a graph to files, in one format or in all. -/

set_option autoImplicit false

namespace Understudy.Graph

/-! A node-link document is a JSON object that lists nodes and links with their attributes. -/

def nodeRecord (n : GraphNode) : Value := .object (n.attributes.set "id" n.id)

def linkRecord (l : GraphLink) : Value :=
  .object ((l.attributes.set "source" l.source).set "target" l.target)

def toNodeLink (g : Graph) : Value :=
  .object
    [("directed", .bool true), ("multigraph", .bool false), ("graph", .object []),
     ("nodes", .list (g.nodes.map nodeRecord)), ("edges", .list (g.grouped.map linkRecord))]

def toNodeLinkText (g : Graph) : String := g.toNodeLink.indented 0

/-! Files in one format or in all of them. -/

open Understudy.Settings

inductive WriteFault where
  | format (value : Value)
  | file (fault : FileFault)
  | slip (slip : Slip)
  deriving DecidableEq, Repr

structure Written where
  tree : FileTree
  names : List String
  deriving DecidableEq, Repr

def writeText (w : Written) (name text : String) : Except WriteFault Written := do
  if let some fault := nameFault? name then throw (.file fault)
  let tree ← (w.tree.write (Path.ofString name) text).mapError .file
  return ⟨tree, w.names ++ [name]⟩

def writeMarkup (g : Graph) (stem : String) (w : Written) : Except WriteFault Written := do
  writeText w (stem ++ ".graphml") (← g.toMarkup.mapError .slip)

def writeNodeLink (g : Graph) (stem : String) (w : Written) : Except WriteFault Written :=
  writeText w (stem ++ ".json") g.toNodeLinkText

def writersOf (g : Graph) (stem : String) : GraphFormat → List (Written → Except WriteFault Written)
  | .graphml => [g.writeMarkup stem]
  | .json => [g.writeNodeLink stem]
  | .all => [g.writeMarkup stem, g.writeNodeLink stem]

/-- Run writers one after the other. After a fault the tree is left as it was then. -/
def runWriters : Written → List (Written → Except WriteFault Written) →
    Written × Option WriteFault
  | w, [] => (w, none)
  | w, writer :: rest =>
    match writer w with
    | .error fault => (w, some fault)
    | .ok w => runWriters w rest

/-- Write a graph next to an output name, whose extension gives way to that of the format. -/
def write (g : Graph) (tree : FileTree) (output : String) (format : Value) :
    Written × Option WriteFault :=
  match GraphFormat.ofValue? format with
  | none => (⟨tree, []⟩, some (.format format))
  | some format => runWriters ⟨tree, []⟩ (g.writersOf (dropExtension output) format)

def WriteFault.message? : WriteFault → Option String
  | .format value => some ("Unknown graph format '" ++ value.shown ++ "'")
  | .file _ | .slip _ => none

end Understudy.Graph
