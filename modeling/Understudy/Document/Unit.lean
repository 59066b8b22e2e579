import Understudy.Document.Record
import Understudy.Value.Shown

/-! Units and the documents that describe them. -/

set_option autoImplicit false

namespace Understudy.Cpp

structure UnitRecord (ν : Type) where
  name : Value
  declarations : List (Declaration ν)
  bodies : List (FunctionBody ν)
  header : Value
  deriving DecidableEq, Repr

end Understudy.Cpp

namespace Understudy.Document

open Understudy.Cpp

def RecordFault.message? : RecordFault → Option String
  | .type fault => some fault.message
  | .visibility method => some ("Unknown visibility in method '" ++ method.shown ++ "'")
  | .kind declaration => some ("Unknown declaration kind in '" ++ declaration.shown ++ "'")
  | .constructs unknown callee =>
    some ("Unknown control construct(s) " ++ (Value.list unknown).quoted ++ " around call of '"
      ++ callee.shown ++ "'")
  | .missing _ | .slip _ => none

inductive UnitFault where
  | notObject
  | unnamed
  | record (unit : Value) (fault : RecordFault)
  deriving DecidableEq, Repr

/-- What to say of an unfit document. Slips inside its records have no words. -/
def UnitFault.message? : UnitFault → Option String
  | .notObject => some "Translation unit document must be a JSON object"
  | .unnamed => some "Translation unit document has no 'unit' name"
  | .record unit (.missing key) =>
    some ("Unit '" ++ unit.shown ++ "': missing required key " ++ Text.quoted key)
  | .record _ fault => fault.message?

def readUnit (document default : Value) : Except UnitFault (UnitRecord Value) :=
  match document with
  | .object entries =>
    let name := (Assoc.get? entries "unit").getD default
    if !name.holds then .error .unnamed
    else
      Except.mapError (.record name) do
        let declarations ← (← partsUnder entries "declarations").mapM (readDeclaration name)
        let bodies ← (← partsUnder entries "bodies").mapM (readBody name)
        return { name, declarations, bodies, header := (Assoc.get? entries "header").getD .null }
  | _ => .error .notObject

end Understudy.Document
