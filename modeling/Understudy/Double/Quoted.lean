import Understudy.Double.Heap
import Understudy.Template.Layout
import Understudy.Value.Index
import Understudy.Value.Shown

/-! The text by which messages show data, the words in which data tell what they are good for, and
data laid out by a specification. -/

set_option autoImplicit false

namespace Understudy

namespace Text

def quotedByte (quote : Char) (b : UInt8) : List Char :=
  let c := Char.ofNat b.toNat
  if b.toNat < 0x80 then quotedChar quote c else numberedChar c

def quotedBytes (data : List UInt8) : String :=
  let quote := quoteFor (data.map fun b => Char.ofNat b.toNat)
  String.ofList ('b' :: quote :: data.flatMap (quotedByte quote) ++ [quote])

end Text

def Face.label : Face → String
  | .keys => "dict_keys"
  | .values => "dict_values"
  | .entries => "dict_items"

def Cursor.label (c : Cursor) : String :=
  match c.route with
  | .list _ => "list_iterator"
  | .listBack .. => "list_reverseiterator"
  | .still .tuple _ => "tuple_iterator"
  | .still .bytes _ => "bytes_iterator"
  | .still .set _ => "set_iterator"
  | .still .text items =>
    let isPlain (d : Datum) : Bool :=
      match d with
      | .plain (.text s) => s.toList.all fun c => c.toNat < 0x80
      | _ => true
    if items.all isPlain then "str_ascii_iterator" else "str_iterator"
  | .entries _ face fromEnd _ =>
    "dict_" ++ (if fromEnd then "reverse" else "")
      ++ (match face with
        | .keys => "key"
        | .values => "value"
        | .entries => "item")
      ++ "iterator"

def liveHome : String := "declviews.codeviews.stub.stub_runtime"

/-- Operations between marks that are members like all others; the remaining ones stand for signs
and belong to a kind by its nature. -/
def plainOperations : List String :=
  ["__new__", "__reduce_ex__", "__reduce__", "__getstate__", "__subclasshook__",
    "__init_subclass__", "__format__", "__sizeof__", "__dir__", "__getnewargs__", "__trunc__",
    "__floor__", "__ceil__", "__round__", "__bytes__", "__getformat__", "__reversed__",
    "__class_getitem__", "__length_hint__", "__setstate__"]

namespace Heap

/-- Whether an operation of a datum belongs to its kind by its nature. Lists and objects pick, and
objects and sets look for something, by members like all others; doubles have some of their own. -/
def isNatural (h : Heap) (owner : Datum) (name : String) : Bool :=
  let own : List String :=
    match owner with
    | .double _ | .twin _ => ["__init__", "__getattr__", "__repr__"]
    | .cell address =>
      match h.get? address with
      | some (.list _) => ["__getitem__"]
      | some (.object _) => ["__getitem__", "__contains__"]
      | some (.set _) => ["__contains__"]
      | _ => []
    | _ => []
  name.startsWith "__" && !(plainOperations ++ own).contains name

def operationKind (h : Heap) (owner : Datum) (name : String) : String :=
  if h.isNatural owner name then "method-wrapper"
  else
    match owner with
    | .double _ | .twin _ | .kept .. =>
      if plainOperations.contains name then "builtin_function_or_method" else "method"
    | _ => "builtin_function_or_method"

/-- The name of the kind of a datum; that of what doubles keep is told elsewhere. -/
def kindName (h : Heap) : Datum → String
  | .plain .null => "NoneType"
  | .plain (.bool _) => "bool"
  | .plain (.int _) => "int"
  | .plain (.real _) => "float"
  | .plain (.text _) => "str"
  | .plain (.list _) => "list"
  | .plain (.object _) => "dict"
  | .bytes _ => "bytes"
  | .double _ | .twin _ => "TestDouble"
  | .unanswered => "NotImplementedType"
  | .operation owner name => h.operationKind owner name
  | .kind _ => "type"
  | .kept .. => "object"
  | .cell address =>
    match h.get? address with
    | some (.list _) | none => "list"
    | some (.tuple _) => "tuple"
    | some (.object _) => "dict"
    | some (.set _) => "set"
    | some (.view _ face) => face.label
    | some (.proxy _) => "mappingproxy"
    | some (.caller ..) => "function"
    | some (.cursor c) => c.label
    | some .nan => "float"

/-- Texts between brackets, with commas. A tuple of one has a comma of its own. -/
def bracketed (opening closing : String) (texts : List String) : String :=
  opening ++ ", ".intercalate texts ++ closing

def quotedTuple (texts : List String) : String :=
  bracketed "(" (if texts.length = 1 then ",)" else ")") texts

/-- The written form of a datum. A cell inside itself is written with dots; the fuel bounds how
deep distinct cells can lie in each other. -/
def quotedWith (h : Heap) (label : Nat → String) : Nat → List Nat → Datum → String
  | _, _, .plain value => value.quoted
  | _, _, .bytes data => Text.quotedBytes data
  | _, _, .double number | _, _, .twin number => label number
  | _, _, .unanswered => "NotImplemented"
  | _, _, .kind name => "<class " ++ Text.quoted name ++ ">"
  | _, _, .kept .. => "<object>"
  | fuel + 1, around, .operation owner name =>
    let whose := quotedWith h label fuel around owner
    if h.operationKind owner name == "method" then
      "<bound method " ++ h.kindName owner ++ "." ++ name ++ " of " ++ whose ++ ">"
    else "<operation " ++ name ++ " of " ++ whose ++ ">"
  | 0, _, .cell _ | 0, _, .operation .. => "..."
  | fuel + 1, around, .cell address =>
    let inner := quotedWith h label fuel (address :: around)
    let again := around.contains address
    match h.get? address with
    | none => "..."
    | some (.list items) => if again then "[...]" else bracketed "[" "]" (items.map inner)
    | some (.tuple items) => if again then "(...)" else quotedTuple (items.map inner)
    | some (.object entries) =>
      if again then "\x7b...\x7d"
      else bracketed "\x7b" "\x7d" (entries.map fun (key, d) => inner key ++ ": " ++ inner d)
    | some (.set items) =>
      if items.isEmpty then "set()"
      else bracketed "\x7b" "\x7d" (items.map inner)
    | some (.proxy target) =>
      "mappingproxy(" ++ bracketed "\x7b" "\x7d" ((h.entriesAt target).map fun (key, d) =>
        inner key ++ ": " ++ inner d) ++ ")"
    | some (.caller ..) => "<function>"
    | some (.view target face) =>
      if again then "..."
      else
        face.label ++ bracketed "([" "])" ((h.entriesAt target).map fun (key, d) =>
          match face with
          | .keys => inner key
          | .values => inner d
          | .entries => quotedTuple [inner key, inner d])
    | some (.cursor c) => "<" ++ c.label ++ " object>"
    | some .nan => Value.quoted (.real .nan)

def quoted (h : Heap) (label : Nat → String) (d : Datum) : String :=
  h.quotedWith label (h.cells.length + 2) [] d

/-- A datum inside a sentence: a text stands as it is. -/
def shown (h : Heap) (label : Nat → String) (d : Datum) : String :=
  match d with
  | .plain v => v.shown
  | d => h.quoted label d

end Heap

def kindWords : String → String
  | "str" =>
    "str(object='') -> str\nstr(bytes_or_buffer[, encoding[, errors]]) -> str\n\n"
      ++ "Create a new string object from the given object. If encoding or\n"
      ++ "errors is specified, then the object must expose a data buffer\n"
      ++ "that will be decoded using the given encoding and error handler.\n"
      ++ "Otherwise, returns the result of object.__str__() (if defined)\n"
      ++ "or repr(object).\nencoding defaults to sys.getdefaultencoding().\n"
      ++ "errors defaults to 'strict'."
  | "int" =>
    "int([x]) -> integer\nint(x, base=10) -> integer\n\n"
      ++ "Convert a number or string to an integer, or return 0 if no arguments\n"
      ++ "are given.  If x is a number, return x.__int__().  For floating point\n"
      ++ "numbers, this truncates towards zero.\n\n"
      ++ "If x is not a number or if base is given, then x must be a string,\n"
      ++ "bytes, or bytearray instance representing an integer literal in the\n"
      ++ "given base.  The literal can be preceded by '+' or '-' and be surrounded\n"
      ++ "by whitespace.  The base defaults to 10.  Valid bases are 0 and 2-36.\n"
      ++ "Base 0 means to interpret the base from the string as an integer literal.\n"
      ++ ">>> int('0b100', base=0)\n4"
  | "bool" =>
    "bool(x) -> bool\n\nReturns True when the argument x is true, False otherwise.\n"
      ++ "The builtins True and False are the only two instances of the class bool.\n"
      ++ "The class bool is a subclass of the class int, and cannot be subclassed."
  | "float" =>
    "Convert a string or number to a floating point number, if possible."
  | "bytes" =>
    "bytes(iterable_of_ints) -> bytes\nbytes(string, encoding[, errors]) -> bytes\n"
      ++ "bytes(bytes_or_buffer) -> immutable copy of bytes_or_buffer\n"
      ++ "bytes(int) -> bytes object of size given by the parameter initialized with null bytes\n"
      ++ "bytes() -> empty bytes object\n\nConstruct an immutable array of bytes from:\n"
      ++ "  - an iterable yielding integers in range(256)\n"
      ++ "  - a text string encoded using the specified encoding\n"
      ++ "  - any object implementing the buffer API.\n  - an integer"
  | "list" =>
    "Built-in mutable sequence.\n\n"
      ++ "If no argument is given, the constructor creates a new empty list.\n"
      ++ "The argument must be an iterable if specified."
  | "tuple" =>
    "Built-in immutable sequence.\n\n"
      ++ "If no argument is given, the constructor returns an empty tuple.\n"
      ++ "If iterable is specified the tuple is initialized from iterable's items.\n\n"
      ++ "If the argument is a tuple, the return value is the same object."
  | "dict" =>
    "dict() -> new empty dictionary\n"
      ++ "dict(mapping) -> new dictionary initialized from a mapping object's\n"
      ++ "    (key, value) pairs\n"
      ++ "dict(iterable) -> new dictionary initialized as if via:\n    d = \x7b\x7d\n"
      ++ "    for k, v in iterable:\n        d[k] = v\n"
      ++ "dict(**kwargs) -> new dictionary initialized with the name=value pairs\n"
      ++ "    in the keyword argument list.  For example:  dict(one=1, two=2)"
  | "set" =>
    "set() -> new empty set object\nset(iterable) -> new set object\n\n"
      ++ "Build an unordered collection of unique elements."
  | _ => ""

def Heap.words (h : Heap) (d : Datum) : String := kindWords (h.kindName d)

namespace Heap

open Template

/-- Lay a datum out; only texts and numbers take a specification. -/
def layOut (h : Heap) (label : Nat → String) (spec : List Char) (d : Datum) :
    Except Slip (List Char) :=
  if spec.isEmpty then .ok (h.shown label d).toList
  else
    match h.value? d with
    | some (.text s) => do layOutText (← Spec.read spec) s.toList
    | some (.real x) => do layOutReal (← Spec.read spec) x
    | some v =>
      match indexOf? v with
      | some n => do layOutInteger (← Spec.read spec) n
      | none => .error .wrongType
    | none => .error .wrongType

end Heap
end Understudy
