import Understudy.Double.Member.Basic

/-! Members of objects. -/

set_option autoImplicit false

namespace Understudy.Member

def keyAndDatum : List Datum → Except Slip (Datum × Datum)
  | [key] => .ok (key, .nothing)
  | [key, d] => .ok (key, d)
  | _ => .error .wrongType

/-- Take the entry under a key out; a usual answer may be given for a key without entry. Nothing
is looked up in an object without entries. -/
def takeEntry (address : Nat) (entries : List (Datum × Datum)) (args : List Datum) :
    Work Datum := do
  let (key, _) ← keyAndDatum args
  let h ← get
  match ← if entries.isEmpty then pure none else h.lookUp entries key, args.drop 1 with
  | some d, _ =>
    Work.write address (.object (h.withoutEntry entries key))
    return d
  | none, usual :: _ => return usual
  | none, [] => throw .noKey

def takeLast (address : Nat) (entries : List (Datum × Datum)) : Work Datum := do
  match entries.getLast? with
  | some (key, d) =>
    Work.write address (.object entries.dropLast)
    Work.allocate (.tuple [key, d])
  | none => throw .noKey

def putEntry (address : Nat) (key d : Datum) : Work Unit := do
  let h ← get
  Work.write address (.object (← h.withEntry (h.entriesAt address) key d))

def putPair (address : Nat) (d : Datum) : Work Unit := do
  match ← Work.parts d with
  | [key, d] => putEntry address key d
  | _ => throw .badValue

/-- Put the entries that a datum means into the object at an address: those of an object, or what
data of two parts mean. Entries put in before a slip stay. -/
def absorb (address : Nat) (d : Datum) : Work Unit := do
  let given ←
    match d with
    | .cell source => pure ((← get).get? source)
    | _ => pure none
  match given with
  | some (.object entries) => entries.forM fun (key, d) => putEntry address key d
  | _ => (← Work.parts d).forM (putPair address)

def objectChange? (address : Nat) (entries : List (Datum × Datum)) : String → Option Member
  | "clear" =>
    some (acting do
      Work.write address (.object [])
      return .nothing)
  | "pop" => some (.operation (takeEntry address entries))
  | "popitem" => some (acting (takeLast address entries))
  | "setdefault" =>
    some (.operation fun args => do
      let (key, usual) ← keyAndDatum args
      match ← Work.ask fun h => h.lookUp entries key with
      | some d => return d
      | none =>
        Work.write address (.object (entries ++ [(key, usual)]))
        return usual)
  | "update" | "__init__" => some (.absorption address false)
  | "__ior__" => some (.absorption address true)
  | "__setitem__" =>
    some (.operation fun args =>
      match args with
      | [key, d] => do
        putEntry address key d
        return .nothing
      | _ => throw .wrongType)
  | "__delitem__" =>
    some (taking fun key => do
      discard (takeEntryUnder key)
      return .nothing)
  | _ => none
where
  takeEntryUnder (key : Datum) : Work Datum := do
    let h ← get
    match ← h.lookUp entries key with
    | some d =>
      Work.write address (.object (h.withoutEntry entries key))
      return d
    | none => throw .noKey

def objectOfKeys (args : List Datum) : Work Datum := do
  let (keys, d) ← keyAndDatum args
  let keys ← Work.parts keys
  let h ← get
  Work.allocate (.object (← keys.foldlM (fun entries key => h.withEntry entries key d) []))

def entriesOf? (d : Datum) : Work (Option (List (Datum × Datum))) := do
  match d with
  | .cell address =>
    match (← get).get? address with
    | some (.object entries) => return some entries
    | _ => return none
  | _ => return none

/-- A new object of the entries of two; where both have a key, that of the second one stays. -/
def united (first second : List (Datum × Datum)) : Work Datum := do
  let h ← get
  let all ← second.foldlM (fun entries (key, d) => h.withEntry entries key d) first
  Work.allocate (.object all)

def objectMade? (entries : List (Datum × Datum)) : String → Option Member
  | "fromkeys" => some (.operation objectOfKeys)
  | "__or__" =>
    some (taking fun d => do
      match ← entriesOf? d with
      | some others => united entries others
      | none => return .unanswered)
  | "__ror__" =>
    some (taking fun d => do
      match ← entriesOf? d with
      | some others => united others entries
      | none => return .unanswered)
  | _ => none

def objectRead? (address : Nat) (entries : List (Datum × Datum)) : String → Option Member
  | "get" =>
    some (reading fun h args => do
      let (key, usual) ← keyAndDatum args
      return (← h.lookUp entries key).getD usual)
  | "copy" => some (acting (Work.allocate (.object entries)))
  | "keys" => some (acting (Work.allocate (.view address .keys)))
  | "values" => some (acting (Work.allocate (.view address .values)))
  | "items" => some (acting (Work.allocate (.view address .entries)))
  | "__len__" => some (counting entries.length)
  | "__getitem__" => some (picking (.cell address))
  | "__contains__" =>
    some (taking fun key => Work.ask fun h => do
      return .truth (← h.lookUp entries key).isSome)
  | "__iter__" => some (walking (.entries address .keys false entries.length))
  | "__reversed__" => some (walking (.entries address .keys true entries.length))
  | _ => none

def ofObject? (address : Nat) (entries : List (Datum × Datum)) (name : String) : Option Member :=
  objectRead? address entries name <|> objectMade? entries name
    <|> objectChange? address entries name

def behindProxy (h : Heap) (d : Datum) : Datum :=
  match d with
  | .cell address =>
    match h.get? address with
    | some (.proxy target) => .cell target
    | _ => d
  | _ => d

def uniting (f : List (Datum × Datum) → Work Datum) : Member :=
  taking fun d => do
    match ← entriesOf? (behindProxy (← get) d) with
    | some others => f others
    | none => throw .wrongType

/-- Members of the object at an address, to be read only. It compares itself as the object. -/
def ofProxy? (address : Nat) (entries : List (Datum × Datum)) : String → Option Member
  | "__or__" => some (uniting (united entries))
  | "__ror__" => some (uniting (united · entries))
  | "__ior__" | "__lt__" | "__le__" | "__gt__" | "__ge__" => some (taking fun _ => throw .wrongType)
  | "__eq__" =>
    some (taking fun d => Work.ask fun h => do
      return .truth (← h.alike (.cell address) (behindProxy h d)))
  | "__ne__" =>
    some (taking fun d => Work.ask fun h => do
      return .truth !(← h.alike (.cell address) (behindProxy h d)))
  | name => objectRead? address entries name

end Understudy.Member
