import Understudy.Graph.Basic
import Understudy.Slip
import Understudy.Value.Shown

/-! GraphML documents.

Every combination of attribute name, type and kind of element has a key; keys are numbered in
the order of their first use, nodes before links, and listed backwards. The text is ASCII, with
numbered references for all other characters.
-/

set_option autoImplicit false

namespace Understudy.Graph

def present (attributes : Entries) : Entries := attributes.filter fun (_, v) => v != .null

/-- The type of an attribute in a document; lists and objects have none. -/
def markupType? : Value → Option String
  | .bool _ => some "boolean"
  | .int _ => some "long"
  | .real _ => some "double"
  | .text _ => some "string"
  | _ => none

structure MarkupKey where
  name : String
  type : String
  scope : String
  deriving DecidableEq, Repr

def keyed (scope : String) (attributes : Entries) : Except Slip (List (MarkupKey × String)) :=
  (present attributes).mapM fun (name, v) =>
    match markupType? v with
    | some type => .ok (⟨name, type, scope⟩, v.shown)
    | none => .error .unwritable

def asciiChar (c : Char) : List Char :=
  if c.toNat < 0x80 then [c] else "&#".toList ++ (toString c.toNat).toList ++ [';']

def textChar (c : Char) : List Char :=
  if c == '&' then "&amp;".toList
  else if c == '<' then "&lt;".toList
  else if c == '>' then "&gt;".toList
  else asciiChar c

def attributeChar (c : Char) : List Char :=
  if c == '&' then "&amp;".toList
  else if c == '<' then "&lt;".toList
  else if c == '>' then "&gt;".toList
  else if c == '"' then "&quot;".toList
  else if c == '\r' then "&#13;".toList
  else if c == '\n' then "&#10;".toList
  else if c == '\t' then "&#09;".toList
  else asciiChar c

def escapeText (s : String) : String := String.ofList (s.toList.flatMap textChar)

def escapeAttribute (s : String) : String := String.ofList (s.toList.flatMap attributeChar)

def attr (name value : String) : String := " " ++ name ++ "=\"" ++ escapeAttribute value ++ "\""

def keyLine (key : MarkupKey) (number : Nat) : String :=
  "  <key" ++ attr "id" ("d" ++ toString number) ++ attr "for" key.scope
    ++ attr "attr.name" key.name ++ attr "attr.type" key.type ++ " />\n"

def dataLine (keys : List MarkupKey) (key : MarkupKey) (text : String) : String :=
  let opening := "      <data" ++ attr "key" ("d" ++ toString (keys.idxOf key))
  if text.isEmpty then opening ++ " />\n" else opening ++ ">" ++ escapeText text ++ "</data>\n"

def element (keys : List MarkupKey) (name attributes : String)
    (data : List (MarkupKey × String)) : String :=
  if data.isEmpty then "    <" ++ name ++ attributes ++ " />\n"
  else
    "    <" ++ name ++ attributes ++ ">\n"
      ++ String.join (data.map fun (key, text) => dataLine keys key text)
      ++ "    </" ++ name ++ ">\n"

def markupOpening : String :=
  "<graphml xmlns=\"http://graphml.graphdrawing.org/xmlns\""
    ++ " xmlns:xsi=\"http://www.w3.org/2001/XMLSchema-instance\""
    ++ " xsi:schemaLocation=\"http://graphml.graphdrawing.org/xmlns"
    ++ " http://graphml.graphdrawing.org/xmlns/1.0/graphml.xsd\">\n"

/-- Characters that end a line: a carriage return and a line feed together end one. -/
def splitLineEnds : List Char → List Char
  | '\r' :: '\n' :: rest => '\n' :: splitLineEnds rest
  | c :: rest =>
    (if c == '\r' || c == '\x0b' || c == '\x0c' || c == '\x1c' || c == '\x1d' || c == '\x1e' then
        '\n'
      else c) :: splitLineEnds rest
  | [] => []

/-- What a document says: nodes by the texts they go by and links by those of their ends, each
with its data. -/
structure Sheet where
  nodes : List (String × List (MarkupKey × String))
  links : List ((String × String) × List (MarkupKey × String))
  deriving DecidableEq, Repr

namespace Sheet

def keys (s : Sheet) : List MarkupKey :=
  ((s.nodes.flatMap (·.2) ++ s.links.flatMap (·.2)).map (·.1)).eraseDups

def keyLines (s : Sheet) : List String :=
  s.keys.zipIdx.reverse.map fun (key, number) => keyLine key number

def nodeElement (keys : List MarkupKey) (node : String × List (MarkupKey × String)) : String :=
  element keys "node" (attr "id" node.1) node.2

def linkElement (keys : List MarkupKey)
    (link : (String × String) × List (MarkupKey × String)) : String :=
  element keys "edge" (attr "source" link.1.1 ++ attr "target" link.1.2) link.2

def body (s : Sheet) : String :=
  if s.nodes.isEmpty then "  <graph edgedefault=\"directed\" />\n"
  else
    "  <graph edgedefault=\"directed\">\n" ++ String.join (s.nodes.map (nodeElement s.keys))
      ++ String.join (s.links.map (linkElement s.keys)) ++ "  </graph>\n"

def document (s : Sheet) : String :=
  markupOpening ++ String.join s.keyLines ++ s.body ++ "</graphml>\n"

end Sheet

def sheet (g : Graph) : Except Slip Sheet := do
  let nodes ← g.nodes.mapM fun n => do return (n.id.shown, ← keyed "node" n.attributes)
  let links ← g.grouped.mapM fun l => do
    return ((l.source.shown, l.target.shown), ← keyed "edge" l.attributes)
  return ⟨nodes, links⟩

def toMarkup (g : Graph) : Except Slip String := do
  let sheet ← g.sheet
  return String.ofList (splitLineEnds sheet.document.toList)

end Understudy.Graph
