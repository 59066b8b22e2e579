import Understudy.Cpp.Body
import Understudy.Cpp.Spelling
import Understudy.Cpp.Validity
import Understudy.Slip

/-! Reading the records of unit documents.

Records come out with the names the document gave, whatever values these are: the reader asks
for keys, known words and well-formed types, and for a text only where it has to look into one.
-/

set_option autoImplicit false

namespace Understudy.Document

open Understudy.Cpp

inductive RecordFault where
  | type (fault : TypeFault)
  | visibility (method : Value)
  | kind (declaration : Value)
  | constructs (unknown : List Value) (callee : Value)
  | missing (key : String)
  | slip (slip : Slip)
  deriving DecidableEq, Repr

def require (value : Value) (key : String) : Except RecordFault Value :=
  match value with
  | .object entries =>
    match Assoc.get? entries key with
    | some v => .ok v
    | none => .error (.missing key)
  | _ => .error (.slip .wrongType)

def fields (value : Value) : Except RecordFault Entries :=
  match value with
  | .object entries => .ok entries
  | _ => .error (.slip .noMember)

def partsUnder (entries : Entries) (key : String) : Except RecordFault (List Value) :=
  match entries.get? key with
  | none => .ok []
  | some v =>
    match v.parts? with
    | some parts => .ok parts
    | none => .error (.slip .wrongType)

def flagUnder (entries : Entries) (key : String) : Bool := (entries.get? key).any Value.holds

def baseOf (builtin : Bool) (name : Value) (isConst : Bool) : SemanticType :=
  match name, builtin with
  | .text s, true => .primitive s isConst
  | .text s, false => .named s isConst
  | v, _ => .misnamed builtin v isConst

mutual

def readType : Value → Except TypeFault SemanticType
  | .text s => parseType s
  | .object entries =>
    let isConst := flagUnder entries "const"
    if let some name := Assoc.get? entries "primitive" then .ok (baseOf true name isConst)
    else if let some name := Assoc.get? entries "named" then .ok (baseOf false name isConst)
    else if Assoc.has entries "pointer" then
      (readTypeUnder "pointer" entries).map (.pointer · isConst)
    else if Assoc.has entries "reference" then
      -- a reference is const by nature, so the flag says nothing here
      (readTypeUnder "reference" entries).map (.reference · false)
    else .error (.unknownRecord (.object entries))
  | v => .error (.notType v)

def readTypeUnder (key : String) : Entries → Except TypeFault SemanticType
  | [] => .error (.notType .null)
  | (k, v) :: rest => if k = key then readType v else readTypeUnder key rest

end

def typeOf (value : Value) : Except RecordFault SemanticType :=
  (readType value).mapError .type

def readParameter (value : Value) : Except RecordFault Parameter :=
  match value with
  | .text s => do return ⟨← typeOf (.text s), .null⟩
  | _ => do
    let type ← typeOf (← require value "type")
    let entries ← fields value
    return ⟨type, (entries.get? "name").getD .null⟩

def visibilityOf? : Value → Option Visibility
  | .text "public" => some .public
  | .text "protected" => some .protected
  | .text "private" => some .private
  | _ => none

def readMethod (value : Value) : Except RecordFault (Method Value) := do
  let entries ← fields value
  match visibilityOf? ((entries.get? "visibility").getD (.text "public")) with
  | none => .error (.visibility ((entries.get? "name").getD .null))
  | some visibility =>
    let name ← require value "name"
    let parameters ← (← partsUnder entries "params").mapM readParameter
    let returnType ←
      match (entries.get? "return").getD .null with
      | .null => pure none
      | v => some <$> typeOf v
    return { name, parameters, returnType, visibility
             isPure := flagUnder entries "pure_virtual"
             isConst := flagUnder entries "const" }

def readField (owner value : Value) : Except RecordFault DataMember := do
  let name ← require value "name"
  let type ← typeOf (← require value "type")
  return { name, type, owner }

/-- The kind of a record that states none; names are looked into only if there are methods. -/
def inferKindOf (name : Value) (methods : List (Method Value)) : Except RecordFault DeclKind :=
  if methods.isEmpty then .ok .ordinary
  else
    match name.text?, methods.mapM (·.name.text?) with
    | some owner, some _ => .ok (inferKind owner (methods.map (·.mapName fun v => v.text?.getD "")))
    | _, _ => .error (.slip .noMember)

def kindOf? : Value → Option DeclKind
  | .text "class" => some .ordinary
  | .text "interface" => some .interface
  | _ => none

def readDeclaration (unit value : Value) : Except RecordFault (Declaration Value) := do
  let name ← require value "name"
  let entries ← fields value
  let methods ← (← partsUnder entries "methods").mapM readMethod
  let members ← (← partsUnder entries "fields").mapM (readField name)
  let kind ←
    match entries.get? "kind" with
    | none => inferKindOf name methods
    | some word =>
      match kindOf? word with
      | some kind => pure kind
      | none => .error (.kind name)
  let bases ← partsUnder entries "bases"
  return { name, kind, bases, methods, unit
           fields := members
           isFull := ((entries.get? "fully_defined").getD (.bool true)).holds }

def constructOf? (value : Value) : Option Construct := value.text?.bind Construct.ofKeyword?

/-- The constructs around a call; all unknown ones are reported at once. -/
def readConstructs (entries : Entries) (callee : Except RecordFault Value) :
    Except RecordFault (List Construct) := do
  let words ← partsUnder entries "constructs"
  match words.filter fun w => (constructOf? w).isNone with
  | [] => return words.filterMap constructOf?
  | unknown => .error (.constructs unknown (← callee))

mutual

def readCall : Value → Except RecordFault CallSite
  | .text s => .ok (.mk (.text s) [] [])
  | .object entries => do
    let callee := require (.object entries) "callee"
    let constructs ← readConstructs entries callee
    let callee ← callee
    let arguments ← readCallsUnder "arguments" entries
    return .mk callee constructs arguments
  | _ => .error (.slip .noMember)

/-- The calls under a key: the items of a list, the characters of a text or the keys of an
object. -/
def readCallsUnder (key : String) : Entries → Except RecordFault (List CallSite)
  | [] => .ok []
  | (k, v) :: rest => if k = key then readCalls v else readCallsUnder key rest

def readCalls : Value → Except RecordFault (List CallSite)
  | .list items => readCallItems items
  | .text s => .ok (s.toList.map fun c => .mk (.text (String.ofList [c])) [] [])
  | .object entries => .ok (entries.map fun (key, _) => .mk (.text key) [] [])
  | _ => .error (.slip .wrongType)

def readCallItems : List Value → Except RecordFault (List CallSite)
  | [] => .ok []
  | v :: rest => do
    let call ← readCall v
    let calls ← readCallItems rest
    return call :: calls

end

/-- A body whose name holds a scope mark is a method's. -/
def bodyKindOf (name : Value) : Except RecordFault Value :=
  match name with
  | .text s => .ok (.text (if isScoped s then "method" else "function"))
  | .list items => .ok (.text (if items.contains (.text "::") then "method" else "function"))
  | .object entries => .ok (.text (if Assoc.has entries "::" then "method" else "function"))
  | _ => .error (.slip .wrongType)

def readBody (unit value : Value) : Except RecordFault (FunctionBody Value) := do
  let name ← require value "name"
  let entries ← fields value
  let usual ← bodyKindOf name
  let calls ← readCallsUnder "calls" entries
  return { name, kind := (entries.get? "kind").getD usual, calls, unit }

end Understudy.Document
