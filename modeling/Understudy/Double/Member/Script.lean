import Understudy.Double.Member.Basic
import Understudy.Text.Cut
import Understudy.Text.Search

/-! Members that texts and bytes share.

Bytes are texts of characters below 256, with other blanks and line ends. What is looked for, put
in or cut off has to be of the same kind.
-/

set_option autoImplicit false

namespace Understudy

structure Script where
  read : Datum → Except Slip (List Char)
  sought : Datum → Except Slip (List Char)
  write : List Char → Datum
  isBlank : Char → Bool
  endsLine : Char → Bool

namespace Script

open Member

def stripping (k : Script) (drop : (Char → Bool) → List Char) : Member :=
  reading fun _ args =>
    match args with
    | [] => .ok (k.write (drop k.isBlank))
    | [d] => do
      if d.isNothing then return k.write (drop k.isBlank)
      let chars ← k.read d
      return k.write (drop chars.contains)
    | _ => .error .wrongType

def aligning (k : Script) (align : Nat → Char → List Char) : Member :=
  reading fun _ args => do
    let (width, fill) ←
      match args with
      | [width] => pure (← width.count, [' '])
      | [width, fill] => pure (← width.count, ← k.read fill)
      | _ => throw .wrongType
    let [fill] := fill | throw .wrongType
    if lengthLimit ≤ width then throw .tooLarge
    return k.write (align width.toNat fill)

def removing (k : Script) (cut : List Char → List Char) : Member :=
  reading fun _ args =>
    match args with
    | [d] => do return k.write (cut (← k.read d))
    | _ => .error .wrongType

def shape? (k : Script) (s : List Char) : String → Option Member
  | "strip" => some (k.stripping fun drop => Text.stripRight drop (Text.stripLeft drop s))
  | "lstrip" => some (k.stripping fun drop => Text.stripLeft drop s)
  | "rstrip" => some (k.stripping fun drop => Text.stripRight drop s)
  | "center" => some (k.aligning fun width fill => Text.alignCenter width fill s)
  | "ljust" => some (k.aligning fun width fill => Text.alignLeft width fill s)
  | "rjust" => some (k.aligning fun width fill => Text.alignRight width fill s)
  | "zfill" =>
    some (reading fun _ args =>
      match args with
      | [d] => do
        let width ← d.count
        if lengthLimit ≤ width then throw .tooLarge
        return k.write (Text.fillZeros width.toNat s)
      | _ => .error .wrongType)
  | "expandtabs" =>
    some (reading fun _ args =>
      match args with
      | [] => .ok (k.write (Text.expandTabs 8 0 s))
      | [d] => do return k.write (Text.expandTabs (← d.word 32).toNat 0 s)
      | _ => .error .wrongType)
  | "removeprefix" =>
    some (k.removing fun cut => if cut.isPrefixOf s then s.drop cut.length else s)
  | "removesuffix" =>
    some (k.removing fun cut => if cut.isSuffixOf s then s.take (s.length - cut.length) else s)
  | "replace" =>
    some (reading fun _ args => do
      let (old, new, times) ←
        match args with
        | [old, new] => pure (← k.read old, ← k.read new, s.length + 1)
        | [old, new, times] => pure (← k.read old, ← k.read new, ← times.limit (s.length + 1))
        | _ => throw .wrongType
      return k.write (Text.replace old new times s))
  | _ => none

def searching (k : Script) (s : List Char) (answer : List Char → List Nat → Except Slip Int) :
    Member :=
  reading fun _ args =>
    match args with
    | d :: bounds => do
      let places ← window (Datum.placeOr s.length) s.length bounds
      let sub ← k.sought d
      return .plain (.int (← answer sub (Text.placesIn s sub places)))
    | [] => .error .wrongType

def placeAnswer (place : Option Nat) : Except Slip Int := .ok ((place.map Int.ofNat).getD (-1))

def certainPlace : Option Nat → Except Slip Int
  | some place => .ok place
  | none => .error .badValue

/-- Whether one of several texts stands at a border; those behind the first one that does are not
looked at. -/
def anyFits (k : Script) (fits : List Char → Bool) : List Datum → Except Slip Bool
  | [] => .ok false
  | d :: rest => do if fits (← k.read d) then return true else anyFits k fits rest

def bordering (k : Script) (s : List Char) (test : List Char → List Char → Bool) : Member :=
  reading fun h args =>
    match args with
    | d :: bounds => do
      let (start, stop) ← window (Datum.placeOr s.length) s.length bounds
      let fits (sub : List Char) : Bool := start ≤ stop && test sub ((s.take stop).drop start)
      let texts ←
        match d with
        | .cell address =>
          match h.get? address with
          | some (.tuple items) => pure items
          | _ => throw .wrongType
        | d => pure [d]
      return .plain (.bool (← k.anyFits fits texts))
    | [] => .error .wrongType

def search? (k : Script) (s : List Char) : String → Option Member
  | "count" => some (k.searching s fun sub places => .ok (Text.countApart sub.length 0 places))
  | "find" => some (k.searching s fun _ places => placeAnswer places.head?)
  | "rfind" => some (k.searching s fun _ places => placeAnswer places.getLast?)
  | "index" => some (k.searching s fun _ places => certainPlace places.head?)
  | "rindex" => some (k.searching s fun _ places => certainPlace places.getLast?)
  | "startswith" => some (k.bordering s List.isPrefixOf)
  | "endswith" => some (k.bordering s List.isSuffixOf)
  | _ => none

def splitting (k : Script) (s : List Char)
    (split : (List Char → List (List Char)) → List (List Char))
    (turn : List Char → List Char) : Member :=
  listing fun args => do
    let (mark, times) ←
      match args with
      | [] => pure (.nothing, s.length + 1)
      | [mark] => pure (mark, s.length + 1)
      | [mark, times] => pure (mark, ← times.limit (s.length + 1))
      | _ => throw .wrongType
    if mark.isNothing then return (split (Text.wordsUpTo k.isBlank times)).map k.write
    let mark ← k.read mark
    if mark.isEmpty then throw .badValue
    return (split (Text.splitUpTo (turn mark) times)).map k.write

def parting (k : Script) (cut : List Char → List Char × List Char × List Char) : Member :=
  tupling fun args =>
    match args with
    | [d] => do
      let mark ← k.read d
      if mark.isEmpty then throw .badValue
      let (before, found, after) := cut mark
      return [k.write before, k.write found, k.write after]
    | _ => .error .wrongType

def split? (k : Script) (s : List Char) : String → Option Member
  | "split" => some (k.splitting s (· s) id)
  | "rsplit" => some (k.splitting s (Text.fromEnd · s) List.reverse)
  | "splitlines" =>
    some (listing fun args => do
      let keepEnds ←
        match args with
        | [] => pure false
        | [d] => pure ((← d.word 32) != 0)
        | _ => throw .wrongType
      return (Text.lines k.endsLine keepEnds s).map k.write)
  | "partition" =>
    some (k.parting fun mark =>
      match Text.cutFirst mark s with
      | some (before, after) => (before, mark, after)
      | none => (s, [], []))
  | "rpartition" =>
    some (k.parting fun mark =>
      match Text.cutLast mark s with
      | some (before, after) => (before, mark, after)
      | none => ([], [], s))
  | _ => none

def join (k : Script) (s : List Char) : Member :=
  taking fun d => do
    let items ← Work.parts d
    return k.write (s.intercalate (← items.mapM fun d => (k.read d : Work (List Char))))

def row? (k : Script) (kind : Still) (parts : List Datum) (s : List Char) : String → Option Member
  | "__len__" => some (counting s.length)
  | "__getitem__" => some (picking (k.write s))
  | "__iter__" => some (walking (.still kind parts))
  | "__contains__" =>
    some (taking fun d => do
      return .truth !(Text.placesIn s (← k.sought d) (0, s.length)).isEmpty)
  | "__add__" => some (taking fun d => do return k.write (s ++ (← k.read d)))
  | "__mul__" | "__rmul__" =>
    some (taking fun d => do
      return k.write (List.replicate (← d.times s.length) s).flatten)
  | "__getnewargs__" => some (tupling (alone [k.write s]))
  | _ => none

def member? (k : Script) (s : List Char) (name : String) : Option Member :=
  if name == "join" then some (k.join s)
  else k.shape? s name <|> k.search? s name <|> k.split? s name

end Script
end Understudy
