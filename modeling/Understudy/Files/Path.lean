import Understudy.Text.Cut

/-! File paths.

A path is a root and components. Empty components and single dots vanish; double dots stay,
since what they mean depends on the directories that exist.
-/

set_option autoImplicit false

namespace Understudy

structure Path where
  /-- Leading slashes: none for a relative path. -/
  root : String
  parts : List String
  deriving DecidableEq, Repr

namespace Path

def isPart (part : List Char) : Bool := !(part.isEmpty || part == ['.'])

/-- Exactly two leading slashes are kept, any other number counts as one. -/
def rootOf (s : List Char) : String :=
  match (s.takeWhile (· == '/')).length with
  | 0 => ""
  | 2 => "//"
  | _ => "/"

def ofString (s : String) : Path :=
  ⟨rootOf s.toList, ((Text.pieces '/' s.toList).filter isPart).map String.ofList⟩

/-- The text of a path; an empty one is the current directory. -/
def text (p : Path) : String :=
  if p.root.isEmpty && p.parts.isEmpty then "." else p.root ++ "/".intercalate p.parts

/-- A path below another one; an absolute path stands for itself. -/
def append (base below : Path) : Path :=
  if below.root.isEmpty then ⟨base.root, base.parts ++ below.parts⟩ else below

def name (p : Path) : String := p.parts.getLast?.getD ""

/-- The name without its last extension. A dot at either end of a name starts no extension. -/
def stem (p : Path) : String :=
  match Text.cutLast ['.'] p.name.toList with
  | some (before, after) =>
    if before.isEmpty || after.isEmpty then p.name else String.ofList before
  | none => p.name

def parent (p : Path) : Path := ⟨p.root, p.parts.dropLast⟩

end Path

/-- A file name as written, without the extension of its last component. Dots that lead a
component start no extension. -/
def dropExtension (name : String) : String :=
  let (head, last) :=
    match Text.cutLast ['/'] name.toList with
    | some (before, after) => (before ++ ['/'], after)
    | none => ([], name.toList)
  match Text.cutLast ['.'] last with
  | some (before, _) => if before.all (· == '.') then name else String.ofList (head ++ before)
  | none => name

end Understudy
