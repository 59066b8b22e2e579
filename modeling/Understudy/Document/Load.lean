import Understudy.Document.Unit
import Understudy.Files.Document

/-! Loading unit documents from files. -/

set_option autoImplicit false

namespace Understudy.Document

open Understudy.Cpp

inductive LoadFault where
  | unreadable (path : Path) (reason : String)
  | unit (fault : UnitFault)
  | encoding (fault : Text.Utf8Fault)
  | slip (slip : Slip)
  deriving DecidableEq, Repr

def documentFault (path : Path) : DocumentFault → LoadFault
  | .file _ .nullInName => .slip .badValue
  | .file place fault => .unreadable path (fault.describe place)
  | .encoding fault => .encoding fault
  | .json fault =>
    match fault.complaint with
    | .integerTooLong _ => .slip .badValue
    | _ => .unreadable path fault.message

def unreadableMessage (path : Path) (reason : String) : String :=
  "Cannot read translation unit " ++ path.text ++ ": " ++ reason

def loadUnit (tree : FileTree) (path : Path) : Except LoadFault (UnitRecord Value) := do
  let document ← (tree.readDocument path).mapError (documentFault path)
  (readUnit document (.text path.stem)).mapError .unit

/-- Whether a number of workers is at most one; only numbers and truth values are compared. -/
def atMostOne : Value → Except Slip Bool
  | .bool _ => .ok true
  | .int n => .ok (n ≤ 1)
  | .real x => .ok x.leOne
  | _ => .error .wrongType

def pathOf : Value → Except Slip Path
  | .text name => .ok (Path.ofString name)
  | _ => .error .wrongType

def pathsOf (files : Value) : Except Slip (List Path) :=
  match files.parts? with
  | some parts => parts.mapM pathOf
  | none => .error .wrongType

/-- Load units in the order of their files. The number of workers changes no result, but it has
to be a number. -/
def loadUnits (tree : FileTree) (paths : List Path) (workers : Value) :
    Except LoadFault (List (UnitRecord Value)) := do
  let _ ← (atMostOne workers).mapError .slip
  paths.mapM (loadUnit tree)

end Understudy.Document
