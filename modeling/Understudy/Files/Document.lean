import Understudy.Files.Tree
import Understudy.Text.Utf8
import Understudy.Value.Reader
import Understudy.Value.Shown

/-! Reading a JSON document from a file. -/

set_option autoImplicit false

namespace Understudy

inductive DocumentFault where
  | file (path : Path) (fault : FileFault)
  | encoding (fault : Text.Utf8Fault)
  | json (fault : Value.ReadFault)
  deriving DecidableEq, Repr

def FileFault.describe (path : Path) (fault : FileFault) : String :=
  fault.message ++ ": " ++ Text.quoted path.text

def Text.Utf8Fault.message (f : Text.Utf8Fault) : String :=
  let reason :=
    match f.reason with
    | .start => "invalid start byte"
    | .continuation => "invalid continuation byte"
    | .ending => "unexpected end of data"
  let place :=
    if f.extent ≤ 1 then
      "byte 0x" ++ String.ofList (Text.hexDigits 2 f.firstByte.toNat) ++ " in position "
        ++ toString f.position
    else "bytes in position " ++ toString f.position ++ "-" ++ toString (f.position + f.extent - 1)
  "'utf-8' codec can't decode " ++ place ++ ": " ++ reason

/-- The value a file holds; line ends of every convention count as one. -/
def FileTree.readDocument (tree : FileTree) (path : Path) : Except DocumentFault Value := do
  let bytes ← (tree.read path).mapError (.file path)
  let chars ← (Text.decodeUtf8 bytes).mapError .encoding
  (Value.ofJson (Text.unifyNewlines chars)).mapError .json

end Understudy
