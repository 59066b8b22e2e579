import Understudy.CommandLine.Execute

/-! The program: look at the files that a command line names, execute it on them, and carry out
what it wrote. -/

set_option autoImplicit false

namespace Understudy

def probe (name : String) : IO (Option FileNode) := do
  let place := (← IO.currentDir) / name
  if ← place.isDir then return some .directory
  if ← place.pathExists then return some (.file (← IO.FS.readBinFile place).toList)
  return none

def observe (tree : FileTree) (path : Path) : IO FileTree :=
  (List.range (path.parts.length + 1)).foldlM
    (fun tree n => do
      let front : Path := ⟨path.root, path.parts.take n⟩
      match tree.locate front with
      | .error _ => return tree
      | .ok place =>
        if (tree.node? place).isSome then return tree
        match ← probe front.text with
        | some node => return tree.put place node
        | none => return tree)
    tree

def carryOut (node : Place × FileNode) : IO Unit :=
  let name := FileTree.nameOf node.1
  match node.2 with
  | .directory => IO.FS.createDirAll name
  | .file content => IO.FS.writeBinFile name (ByteArray.mk content.toArray)

end Understudy

open Understudy in
def main (words : List String) : IO UInt32 := do
  let paths :=
    match CommandLine.Request.ofWords words with
    | .ok request => request.paths
    | .error _ => []
  let tree ← paths.foldlM observe FileTree.empty
  let execution := CommandLine.execute tree words
  (execution.tree.nodesSince tree).forM carryOut
  (← IO.getStdout).putStr execution.output
  (← IO.getStderr).putStr execution.messages
  match execution.status with
  | .ok status => return UInt32.ofNat status
  | .error breakdown =>
    IO.eprintln breakdown.message
    return 1
