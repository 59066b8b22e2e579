import Understudy.Files.Document
import Understudy.Settings.Basic

/-! Settings from a document and options. -/

set_option autoImplicit false

namespace Understudy.Settings

inductive Fault where
  | unreadable (path : Path) (reason : String)
  | notObject (path : Path)
  | option (item : Value) (fault : OptionFault)
  | format (value : Value)
  | encoding (fault : Text.Utf8Fault)
  | plain (reason : String)
  | slip (slip : Slip)
  deriving DecidableEq, Repr

def Fault.message? : Fault → Option String
  | .unreadable path reason => some ("Cannot read config file " ++ path.text ++ ": " ++ reason)
  | .notObject path => some ("Config file " ++ path.text ++ " must contain a JSON object.")
  | .option item fault => some (fault.message item.shown)
  | .format value =>
    some ("Unknown callgraph.graph_format '" ++ value.shown ++ "', expected one of "
      ++ ", ".intercalate (GraphFormat.list.map GraphFormat.keyword))
  | .encoding _ | .plain _ | .slip _ => none

def documentFault (path : Path) : DocumentFault → Fault
  | .file _ .nullInName => .plain FileFault.nullInName.message
  | .file place fault => .unreadable path (fault.describe place)
  | .encoding fault => .encoding fault
  | .json fault =>
    match fault.complaint with
    | .integerTooLong _ => .plain fault.complaint.message
    | _ => .unreadable path fault.message

def readFile (tree : FileTree) (path : Path) : Except Fault Entries := do
  match ← (tree.readDocument path).mapError (documentFault path) with
  | .object entries => return entries
  | _ => .error (.notObject path)

/-- Read one option; of lists and objects only those are refused by name that lack the sign
between key and value. -/
def readOption (item : Value) : Except Fault Setting :=
  let unsplit (found : Bool) : Except Fault Setting :=
    .error (if found then .slip .noMember else .option item .noValue)
  match item with
  | .text s => (parseOption s).mapError (.option item)
  | .list items => unsplit (items.contains (.text "="))
  | .object entries => unsplit (Assoc.has entries "=")
  | _ => .error (.slip .wrongType)

def applyOption (settings : Entries) (item : Value) : Except Fault Entries := do
  (apply settings (← readOption item)).mapError .slip

def optionsOf (options : Value) : Except Fault (List Value) :=
  if !options.holds then .ok []
  else
    match options.parts? with
    | some items => .ok items
    | none => .error (.slip .wrongType)

def loadDocument (tree : FileTree) (config : Value) : Except Fault Entries :=
  if !config.holds then .ok defaults
  else
    match config with
    | .text file => merge defaults <$> readFile tree (Path.ofString file)
    | _ => .error (.slip .wrongType)

def load (tree : FileTree) (config options : Value) : Except Fault Entries := do
  let settings ← loadDocument tree config
  let settings ← (← optionsOf options).foldlM applyOption settings
  let format ← (formatValue settings).mapError .slip
  if (GraphFormat.ofValue? format).isSome then return settings else .error (.format format)

end Understudy.Settings
