import Understudy.Cpp.Primitive
import Understudy.Cpp.Type
import Understudy.Text.Identifier
import Understudy.Value.Shown

/-! Reading type spellings.

A spelling is cut into words and marks. Words before the first mark make up the base type, and
each mark after it adds a layer. Text that is neither word nor mark is passed over.
-/

set_option autoImplicit false

namespace Understudy.Cpp

inductive Token where
  | star
  | ampersand
  | word (text : String)
  deriving DecidableEq, Repr

def Token.text : Token → String
  | .star => "*"
  | .ampersand => "&"
  | .word text => text

namespace Token

def ofWord (reversed : List Char) : Token := .word (String.ofList reversed.reverse)

def isWordStart (c : Char) : Bool := c == '_' || c.isAlpha

def endWord (reversed : List Char) (later : List Token) : List Token :=
  if reversed.isEmpty then later else ofWord reversed :: later

/-- The tokens of a spelling, continuing a word whose characters are given in reverse. A scope
mark belongs to a word when a letter or an underscore follows it. -/
def scanFrom : List Char → List Char → List Token
  | run, [] => endWord run []
  | run, ':' :: ':' :: c :: rest =>
    if isWordStart c then scanFrom (c :: ':' :: ':' :: run) rest
    else endWord run (scanFrom [] (':' :: c :: rest))
  | run, c :: rest =>
    if c == '*' then endWord run (.star :: scanFrom [] rest)
    else if c == '&' then endWord run (.ampersand :: scanFrom [] rest)
    else if isWordStart c || (!run.isEmpty && Text.isWordChar c) then scanFrom (c :: run) rest
    else endWord run (scanFrom [] rest)

def scan (spelling : String) : List Token := scanFrom [] spelling.toList

end Token

inductive TypeFault where
  | empty (spelling : String)
  | nameless (spelling : String)
  | unparsed (spelling : String)
  | unexpected (token spelling : String)
  | notType (value : Value)
  | unknownRecord (value : Value)
  deriving DecidableEq, Repr

def TypeFault.message : TypeFault → String
  | .empty spelling => "Empty type spelling '" ++ spelling ++ "'"
  | .nameless spelling => "Type spelling '" ++ spelling ++ "' names no type"
  | .unparsed spelling => "Cannot parse type spelling '" ++ spelling ++ "'"
  | .unexpected token spelling =>
    "Unexpected '" ++ token ++ "' in type spelling '" ++ spelling ++ "'"
  | .notType value => "Type must be a string or an object, got " ++ value.quoted
  | .unknownRecord value => "Unknown type record " ++ value.quoted

/-- The base words before the first mark, whether one of the qualifiers is const, and the
tokens from that mark on. -/
def takeBase : List Token → List String × Bool × List Token
  | .word w :: rest =>
    let (words, isConst, layers) := takeBase rest
    if qualifierWords.contains w then (words, w == "const" || isConst, layers)
    else if elaboratedWords.contains w then (words, isConst, layers)
    else (w :: words, isConst, layers)
  | layers => ([], false, layers)

/-- Add the layers that marks stand for; between marks only qualifiers are expected. -/
def addLayers (spelling : String) : SemanticType → List Token → Except TypeFault SemanticType
  | t, [] => .ok t
  | t, .star :: rest => addLayers spelling (.pointer t false) rest
  | t, .ampersand :: rest => addLayers spelling (.reference t false) rest
  | t, .word w :: rest =>
    if w == "const" then addLayers spelling (t.setConst true) rest
    else if w == "volatile" then addLayers spelling t rest
    else .error (.unexpected w spelling)

def baseType (spelling : String) (words : List String) (isConst : Bool) :
    Except TypeFault SemanticType :=
  if words.isEmpty then .error (.nameless spelling)
  else if isPrimitiveSpelling words then .ok (.primitive (" ".intercalate words) isConst)
  else
    match words with
    | [name] => .ok (.named name isConst)
    | _ => .error (.unparsed spelling)

/-- Read a type spelling: `const MadeUp** const` is a const pointer to a pointer to a const
`MadeUp`. -/
def parseType (spelling : String) : Except TypeFault SemanticType :=
  let tokens := Token.scan spelling
  if tokens.isEmpty then .error (.empty spelling)
  else
    let (words, isConst, layers) := takeBase tokens
    (baseType spelling words isConst).bind (addLayers spelling · layers)

end Understudy.Cpp
