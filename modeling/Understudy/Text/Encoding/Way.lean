import Understudy.Slip
import Understudy.Text.CharName
import Understudy.Value.Shown

/-! Ways with what an encoding lacks, chosen by name. -/

set_option autoImplicit false

namespace Understudy.Text

def substitute (way : String) (c : Char) : Except Slip (List Char) :=
  match way with
  | "strict" | "surrogateescape" | "surrogatepass" => .error .unencodable
  | "ignore" => .ok []
  | "replace" => .ok ['?']
  | "xmlcharrefreplace" => .ok ("&#".toList ++ (toString c.toNat).toList ++ [';'])
  | "backslashreplace" => .ok (numberedChar c)
  | "namereplace" =>
    .ok (match charName? c with
      | some name => "\\N\x7b".toList ++ name ++ ['\x7d']
      | none => numberedChar c)
  | _ => .error .unknownEncoding

def substituteBytes (way : String) (data : List UInt8) : Except Slip (List Char) :=
  match way with
  | "ignore" => .ok []
  | "replace" => .ok ['\ufffd']
  | "backslashreplace" => .ok (data.flatMap fun b => numberedChar (Char.ofNat b.toNat))
  | "strict" | "surrogateescape" | "surrogatepass" => .error .undecodable
  | "xmlcharrefreplace" | "namereplace" => .error .wrongType
  | _ => .error .unknownEncoding

end Understudy.Text
