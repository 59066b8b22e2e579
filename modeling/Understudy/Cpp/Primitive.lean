import Understudy.Text.Blank
import Understudy.Value.Basic

/-! Builtin type words and the values of default-constructed builtin types. -/

set_option autoImplicit false

namespace Understudy.Cpp

def primitiveWords : List String :=
  ["void", "bool", "char", "wchar_t", "char8_t", "char16_t", "char32_t", "short", "int", "long",
   "float", "double", "signed", "unsigned", "size_t", "ptrdiff_t", "intptr_t", "uintptr_t",
   "int8_t", "int16_t", "int32_t", "int64_t", "uint8_t", "uint16_t", "uint32_t", "uint64_t"]

def qualifierWords : List String := ["const", "volatile"]

def elaboratedWords : List String := ["class", "struct", "union", "enum", "typename"]

def isPrimitiveSpelling (words : List String) : Bool :=
  !words.isEmpty && words.all (primitiveWords.contains ·)

def wordsOf (s : String) : List String := (Text.words s.toList).map String.ofList

/-- The zero value of a builtin type: nothing, false, a real zero, the null character or zero. -/
def primitiveDefault (name : String) : Value :=
  let words := wordsOf name
  if words.isEmpty || words.contains "void" then .null
  else if words.contains "bool" then .bool false
  else if words.contains "float" || words.contains "double" then .real (.zero false)
  else if words.getLast?.any ("char".toList.isPrefixOf ·.toList) || words.contains "wchar_t" then
    .text "\x00"
  else .int 0

end Understudy.Cpp
