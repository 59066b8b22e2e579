import Understudy.Files.Path
import Understudy.Slip

/-! A tree of files around a working directory.

Places are lists of components from the working directory, which always exists, as do the
directories above it. Names are limited: no null character, no component over 255 bytes, and
less than 4096 bytes in all.
-/

set_option autoImplicit false

namespace Understudy

inductive FileFault where
  | notFound
  | exists
  | notDirectory
  | isDirectory
  | nameTooLong
  /-- A name with a null character, which never reaches the files. -/
  | nullInName
  deriving DecidableEq, Repr

def FileFault.message : FileFault → String
  | .notFound => "[Errno 2] No such file or directory"
  | .exists => "[Errno 17] File exists"
  | .notDirectory => "[Errno 20] Not a directory"
  | .isDirectory => "[Errno 21] Is a directory"
  | .nameTooLong => "[Errno 36] File name too long"
  | .nullInName => "embedded null byte"

def nameFault? (name : String) : Option FileFault :=
  if name.toList.contains '\x00' then some .nullInName
  else if 4096 ≤ name.utf8ByteSize then some .nameTooLong
  else none

def isLongPart (part : String) : Bool := 255 < part.utf8ByteSize

inductive FileNode where
  | directory
  | file (content : List UInt8)
  deriving DecidableEq, Repr

abbrev Place := List String

structure FileTree where
  nodes : List (Place × FileNode)
  deriving DecidableEq, Repr

namespace FileTree

def empty : FileTree := ⟨[]⟩

def isAlwaysThere (place : Place) : Bool := place.all fun part => part == ".." || part == "/"

def node? (tree : FileTree) (place : Place) : Option FileNode :=
  if isAlwaysThere place then some .directory
  else (tree.nodes.find? (·.1 == place)).map (·.2)

def put (tree : FileTree) (place : Place) (node : FileNode) : FileTree :=
  ⟨tree.nodes.filter (·.1 != place) ++ [(place, node)]⟩

def above (place : Place) : Place :=
  if isAlwaysThere place then place ++ [".."] else place.dropLast

/-- Follow components from a place, every one but the last through an existing directory. -/
def follow (tree : FileTree) : Place → List String → Except FileFault Place
  | place, [] => .ok place
  | place, part :: rest =>
    match tree.node? place with
    | none => .error .notFound
    | some (.file _) => .error .notDirectory
    | some .directory =>
      if isLongPart part then .error .nameTooLong
      else follow tree (if part == ".." then above place else place ++ [part]) rest

/-- The place a path leads to, which need not exist itself. -/
def locate (tree : FileTree) (path : Path) : Except FileFault Place :=
  match nameFault? path.text with
  | some fault => .error fault
  | none => follow tree (if path.root.isEmpty then [] else ["/"]) path.parts

def read (tree : FileTree) (path : Path) : Except FileFault (List UInt8) := do
  match tree.node? (← tree.locate path) with
  | none => .error .notFound
  | some .directory => .error .isDirectory
  | some (.file content) => .ok content

def write (tree : FileTree) (path : Path) (content : String) : Except FileFault FileTree := do
  let place ← tree.locate path
  match tree.node? place with
  | some .directory => .error .isDirectory
  | _ => return tree.put place (.file content.toUTF8.toList)

def isDirectory (tree : FileTree) (path : Path) : Bool :=
  match tree.locate path with
  | .ok place => tree.node? place == some .directory
  | .error _ => false

/-- Make one directory. One that exists already is left alone. -/
def makeDirectory (tree : FileTree) (path : Path) : Except FileFault FileTree :=
  if tree.isDirectory path then .ok tree
  else do
    let place ← tree.locate path
    match tree.node? place with
    | some _ => .error .exists
    | none => return tree.put place .directory

def makeDirectories (tree : FileTree) (path : Path) : Except FileFault FileTree :=
  match nameFault? path.text with
  | some fault => .error fault
  | none =>
    match tree.locate path with
    | .error .notDirectory => .error .notDirectory
    | _ =>
      (List.range (path.parts.length + 1)).foldlM
        (fun tree n => tree.makeDirectory ⟨path.root, path.parts.take n⟩) tree

def isOutside (place : Place) : Bool := place.any fun part => part == ".." || part == "/"

def files (tree : FileTree) : List (Place × List UInt8) :=
  tree.nodes.filterMap fun (place, node) =>
    match node with
    | .file content => if isOutside place then none else some (place, content)
    | .directory => none

/-- The nodes of this tree that another one lacks or holds otherwise, in the order in which they
came about. -/
def nodesSince (tree earlier : FileTree) : List (Place × FileNode) :=
  tree.nodes.filter fun node => !earlier.nodes.contains node

def nameOf : Place → String
  | "/" :: rest => "/" ++ "/".intercalate rest
  | place => "/".intercalate place

def withFile (tree : FileTree) (path : Path) (content : List UInt8) : FileTree :=
  let directories := (List.range path.parts.length).map path.parts.take
  let tree := directories.foldl
    (fun tree place => if (tree.node? place).isSome then tree else tree.put place .directory) tree
  tree.put path.parts (.file content)

end FileTree
end Understudy
