import Understudy.Template.Spec

/-! Templates: texts with fields in braces.

A doubled brace stands for itself. A field names an argument and a way into it, may ask for a
conversion, and may have a specification that itself holds fields. Where a template is malformed
its pieces end, so that what stands before is still dealt with.
-/

set_option autoImplicit false

namespace Understudy.Template

structure Field where
  name : List Char
  conversion : Option Char
  spec : List Char
  deriving DecidableEq, Repr

inductive Piece where
  | literal (text : List Char)
  | field (f : Field)
  | malformed
  deriving DecidableEq, Repr

def isBrace (c : Char) : Bool := c == '\x7b' || c == '\x7d'

/-- The name of a field, the mark that ends it and what follows. Marks in brackets are passed
over. -/
def takeName : Bool → List Char → Option (List Char × Char × List Char)
  | _, [] => none
  | true, c :: rest => (takeName (c != ']') rest).map fun (name, found) => (c :: name, found)
  | false, c :: rest =>
    if c == '\x7b' then none
    else if c == '\x7d' || c == ':' || c == '!' then some ([], c, rest)
    else (takeName (c == '[') rest).map fun (name, found) => (c :: name, found)

def takeSpec : Nat → List Char → Option (List Char × List Char)
  | _, [] => none
  | depth, c :: rest =>
    if c == '\x7d' && depth = 0 then some ([], rest)
    else
      let depth := if c == '\x7b' then depth + 1 else if c == '\x7d' then depth - 1 else depth
      (takeSpec depth rest).map fun (spec, after) => (c :: spec, after)

def takeField (s : List Char) : Option (Field × List Char) :=
  match takeName false s with
  | none => none
  | some (name, '\x7d', rest) => some (⟨name, none, []⟩, rest)
  | some (name, ':', rest) => (takeSpec 0 rest).map fun (spec, after) => (⟨name, none, spec⟩, after)
  | some (name, _, rest) =>
    match rest with
    | conversion :: '\x7d' :: after => some (⟨name, some conversion, []⟩, after)
    | conversion :: ':' :: more =>
      (takeSpec 0 more).map fun (spec, after) => (⟨name, some conversion, spec⟩, after)
    | _ => none

def piecesWith : Nat → List Char → List Piece
  | 0, _ => []
  | fuel + 1, s =>
    .literal (s.takeWhile (!isBrace ·)) ::
      match s.dropWhile (!isBrace ·) with
      | [] => []
      | '\x7b' :: '\x7b' :: rest => .literal ['\x7b'] :: piecesWith fuel rest
      | '\x7d' :: '\x7d' :: rest => .literal ['\x7d'] :: piecesWith fuel rest
      | '\x7b' :: rest =>
        match takeField rest with
        | some (f, after) => .field f :: piecesWith fuel after
        | none => [.malformed]
      | _ => [.malformed]

def pieces (s : List Char) : List Piece := piecesWith (s.length + 1) s

inductive Step where
  | attribute (name : List Char)
  | item (key : List Char)
  | malformed
  deriving DecidableEq, Repr

def opensStep (c : Char) : Bool := c == '.' || c == '['

def stepsWith : Nat → List Char → List Step
  | 0, _ | _, [] => []
  | fuel + 1, '.' :: rest =>
    let name := rest.takeWhile (!opensStep ·)
    if name.isEmpty then [.malformed]
    else .attribute name :: stepsWith fuel (rest.dropWhile (!opensStep ·))
  | fuel + 1, '[' :: rest =>
    let key := rest.takeWhile (· != ']')
    match rest.dropWhile (· != ']') with
    | _ :: after => if key.isEmpty then [.malformed] else .item key :: stepsWith fuel after
    | [] => [.malformed]
  | _, _ => [.malformed]

def Field.path (f : Field) : List Char × List Step :=
  let rest := f.name.dropWhile (!opensStep ·)
  (f.name.takeWhile (!opensStep ·), stepsWith rest.length rest)

/-- The integer that a name consists of, if it does. Digits in front of it are read even so. -/
def wholeNumber (name : List Char) : Except Slip (Option Nat) := do
  let (number, rest) ← takeNumber name
  return if rest.isEmpty then number else none

/-- How arguments are numbered so far: not at all, by the order of the fields, or by the fields
themselves. -/
inductive Numbering where
  | undecided
  | automatic (next : Nat)
  | manual
  deriving DecidableEq, Repr

inductive Origin where
  | position (index : Nat)
  | name (name : List Char)
  deriving DecidableEq, Repr

/-- The origin that the first part of a name means; the two ways of numbering do not mix. -/
def Numbering.origin (n : Numbering) (first : List Char) : Except Slip (Numbering × Origin) := do
  if first.isEmpty then
    match n with
    | .undecided => return (.automatic 1, .position 0)
    | .automatic next => return (.automatic (next + 1), .position next)
    | .manual => throw .badValue
  else
    match ← wholeNumber first, n with
    | some _, .automatic _ => throw .badValue
    | some index, _ => return (.manual, .position index)
    | none, n => return (n, .name first)

end Understudy.Template
