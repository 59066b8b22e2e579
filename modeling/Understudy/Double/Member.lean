import Understudy.Double.Member.Common
import Understudy.Double.Member.List
import Understudy.Double.Member.Object
import Understudy.Double.Member.Percent
import Understudy.Double.Member.View

/-! The members that a datum has. -/

set_option autoImplicit false

namespace Understudy.Member

def wording (s : String) : Member := .data (.plain (.text s))

def ofOperation? (h : Heap) (owner : Datum) (own : String) : String → Option Member
  | "__name__" => some (wording own)
  | "__qualname__" => some (wording (h.kindName owner ++ "." ++ own))
  | "__self__" => some (.data owner)
  | "__module__" =>
    match h.operationKind owner own with
    | "method" => some (wording liveHome)
    | "method-wrapper" => none
    | _ => some (.data .nothing)
  | _ => none

/-- Members of what calls the methods of a double that have a name. It takes whatever is put on
it. -/
def ofCaller? (method : String) : String → Option Member
  | "__name__" => some (wording method)
  | "__qualname__" => some (wording "TestDouble._dispatch.<locals>.call")
  | "__module__" => some (wording liveHome)
  | "__defaults__" | "__kwdefaults__" => some (.data .nothing)
  | "__dict__" | "__annotations__" | "__closure__" | "__code__" | "__globals__"
  | "__builtins__" => some .description
  | "__setattr__" =>
    some (.operation fun args =>
      match args with
      | [name, _] => do
        discard (attributeName name : Work String)
        return .nothing
      | _ => throw .wrongType)
  | _ => none

def ofKind? (kind : String) : String → Option Member
  | "__name__" | "__qualname__" => some (wording kind)
  | "__module__" => some (wording (if kind == "TestDouble" then liveHome else "builtins"))
  | _ => none

end Understudy.Member

namespace Understudy

namespace Heap

variable (h : Heap) (label : Nat → String)

def cellMember? (address : Nat) (name : String) : Option Member :=
  match h.get? address with
  | some (.list items) => Member.ofList? address items name
  | some (.tuple items) => Member.ofTuple? address items name
  | some (.object entries) => Member.ofObject? address entries name
  | some (.set items) => Member.ofSet? address items name
  | some (.view target face) => Member.ofView? address target face name
  | some (.proxy target) => Member.ofProxy? target (h.entriesAt target) name
  | some (.cursor c) => Member.ofCursor? address c name
  | some .nan => Member.ofReal? (.cell address) .nan name
  | some (.caller _ method) => Member.ofCaller? method name
  | none => none

def ownMember? (d : Datum) (name : String) : Option Member :=
  match d with
  | .plain (.text s) =>
    Member.ofText? s.toList name <|> Member.percent? .text label s.toList d name
  | .plain (.int n) => Member.ofInteger? n .int name
  | .plain (.bool b) => Member.ofTruth? b name
  | .plain (.real x) => Member.ofReal? d x name
  | .plain .null => if name == "__bool__" then some (Member.fixedTruth false) else none
  | .bytes data =>
    Member.ofBytes? data name
      <|> Member.percent? .bytes label (data.map fun b => Char.ofNat b.toNat) d name
  | .cell address => h.cellMember? address name
  | .unanswered => if name == "__bool__" then some (Member.fixedTruth true) else none
  | .operation owner own => Member.ofOperation? h owner own name
  | .kind kind => Member.ofKind? kind name
  | _ => none

def isDescribed : Datum → Bool
  | .plain v => v != .null
  | .cell address =>
    match h.get? address with
    | some (.view ..) | some (.proxy _) | some (.cursor _) | some (.caller ..) => false
    | _ => true
  | .unanswered => false
  | _ => true

/-- The member of a datum with a name. Doubles have other members beside those of all data; the
label writes them. -/
def member? (d : Datum) (name : String) : Option Member :=
  if name == "__hash__" && !h.isKey d then
    some (if h.kindName d == "tuple" then .operation fun _ => throw .wrongType else .data .nothing)
  else if name == "__doc__" then some (if h.isDescribed d then .description else .data .nothing)
  else if name == "__class__" then some (.construction (h.kindName d))
  else
    h.ownMember? label d name <|> Member.unchanging? name <|> Member.common? label d name

end Heap

end Understudy
