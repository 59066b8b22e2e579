import Understudy.Number.Literal
import Understudy.Slip
import Understudy.Text.Cut
import Understudy.Value.Shown

/-! Settings: named sections of values.

Defaults are overlaid by a document and then by single options. Objects are overlaid key by
key at every depth; any other value replaces what was there.
-/

set_option autoImplicit false

namespace Understudy.Settings

def defaults : Entries :=
  [("stub", .object
      [("prefix", .text "Stub"), ("includes", .list []), ("guard", .null),
       ("basename", .text "stub"), ("workers", .int 1)]),
   ("callgraph", .object [("graph_format", .text "graphml"), ("include_types", .bool false)]),
   ("loader", .object [("workers", .int 4)])]

mutual

def merge : Entries → Entries → Entries
  | base, [] => base
  | base, (key, value) :: rest => merge (base.set key (overlay (base.get? key) value)) rest

def overlay : Option Value → Value → Value
  | some (.object old), .object new => .object (merge old new)
  | _, value => value

end

/-- Overlay one value by another, where both have to be objects as far as they are looked
into. -/
def mergeValues (base override : Value) : Except Slip Value :=
  match base, override with
  | .object old, .object new => .ok (.object (merge old new))
  | base, .object [] => .ok base
  | _, .object ((_, .object _) :: _) => .error .noMember
  | _, .object _ => .error .wrongType
  | _, _ => .error .noMember

/-- Settings as they are given, completed by the defaults. Settings that hold nothing are the
defaults. -/
def complete (given : Value) : Except Slip Entries :=
  match given with
  | .object entries => .ok (merge defaults entries)
  | given => if given.holds then .error .noMember else .ok defaults

def group (settings : Entries) (name : String) : Value := (settings.get? name).getD .null

def lookUp (settings : Entries) (name key : String) : Except Slip Value :=
  match group settings name with
  | .object entries =>
    match Assoc.get? entries key with
    | some value => .ok value
    | none => .error .noKey
  | _ => .error .wrongType

/-- A value from plain text: a truth value, an integer, a real number, else the text. -/
def coerce (raw : String) : Value :=
  match String.ofList (raw.toList.map Char.toLower) with
  | "true" => .bool true
  | "false" => .bool false
  | _ =>
    match Number.readInteger? raw.toList with
    | some n => .int n
    | none =>
      match Number.readReal? raw.toList with
      | some x => .real x
      | none => .text raw

inductive OptionFault where
  | noValue
  | noSection
  | emptyKey
  deriving DecidableEq, Repr

def OptionFault.message (item : String) : OptionFault → String
  | .noValue => "Invalid --option value '" ++ item ++ "'. Expected SECTION.KEY=VALUE."
  | .noSection => "Invalid --option value '" ++ item ++ "': key must be SECTION.KEY."
  | .emptyKey => "Invalid --option value '" ++ item ++ "': empty section or key."

structure Setting where
  group : String
  key : String
  value : Value
  deriving DecidableEq, Repr

/-- Read an option `section.key=value`; the first equals sign and the first dot count. -/
def parseOption (item : String) : Except OptionFault Setting :=
  match Text.cutFirst ['='] item.toList with
  | none => .error .noValue
  | some (name, raw) =>
    match Text.cutFirst ['.'] (Text.trim name) with
    | none => .error .noSection
    | some (group, key) =>
      if group.isEmpty || key.isEmpty then .error .emptyKey
      else
        .ok { group := String.ofList group, key := String.ofList key
              value := coerce (String.ofList (Text.trim raw)) }

/-- Apply one setting; its section is made where there is none. -/
def apply (settings : Entries) (s : Setting) : Except Slip Entries :=
  match (settings.get? s.group).getD (.object []) with
  | .object entries => .ok (settings.set s.group (.object (Assoc.set entries s.key s.value)))
  | _ => .error .wrongType

inductive GraphFormat where
  | graphml
  | json
  | all
  deriving DecidableEq, Repr

def GraphFormat.keyword : GraphFormat → String
  | .graphml => "graphml"
  | .json => "json"
  | .all => "all"

def GraphFormat.ofValue? : Value → Option GraphFormat
  | .text "graphml" => some .graphml
  | .text "json" => some .json
  | .text "all" => some .all
  | _ => none

def GraphFormat.list : List GraphFormat := [.graphml, .json, .all]

def formatValue (settings : Entries) : Except Slip Value :=
  match (settings.get? "callgraph").getD (.object []) with
  | .object entries => .ok ((Assoc.get? entries "graph_format").getD .null)
  | _ => .error .noMember

end Understudy.Settings
