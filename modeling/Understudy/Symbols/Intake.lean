import Understudy.Symbols.Resolve

/-! Taking records into the table as documents give them.

The table knows names and bases that are texts. A record with any other name is refused; one named
by a plain value still takes a place in the arena before it is refused, and is kept aside here. Once
it has a place, further records of that name are treated like any others. Bases that are no texts are
no obstacle until they are looked up, so they are kept beside the table.
-/

set_option autoImplicit false

namespace Understudy

open Understudy.Cpp

inductive IntakeFault where
  | malformed (fault : Malformed)
  | slip (slip : Slip)
  deriving DecidableEq, Repr

namespace Intake

def forwardRefusal? (d : Declaration Value) : Option IntakeFault :=
  if !d.isFull && !(d.methods.isEmpty && d.fields.isEmpty) then
    some (.malformed ⟨d.name, .forwardMembers⟩)
  else none

def fieldRefusal? (d : Declaration Value) : Option IntakeFault :=
  (d.fields.find? fun f => !f.owner.equal d.name).map fun f =>
    .malformed ⟨d.name, .strayField f.name f.owner⟩

/-- The first fault of the methods of a declaration, in their order: a name that is no text, or
a malformation. -/
def methodRefusal? (d : Declaration Value) : Option IntakeFault :=
  let plain := d.mapName fun v => v.text?.getD ""
  d.methods.findSome? fun m =>
    match d.name, m.name with
    | .text _, .text name =>
      (methodFault? plain (m.mapName fun _ => name)).map fun reason => .malformed ⟨d.name, reason⟩
    | _, _ => some (.slip .noMember)

def refusal? (d : Declaration Value) : Option IntakeFault :=
  (forwardRefusal? d).or ((fieldRefusal? d).or (methodRefusal? d))

def settled? (d : Declaration Value) : Option (Declaration String) :=
  (d.mapName? Value.text?).map (·.withBases (d.bases.filterMap Value.text?))

def settleBody (b : FunctionBody Value) : Except IntakeFault (FunctionBody String) :=
  match b.mapName? Value.text? with
  | some b => .ok b
  | none => .error (.slip .wrongType)

def canonical (d : Declaration Value) : Declaration Value :=
  (d.mapName Value.canon).withBases (d.bases.map Value.canon)

end Intake

/-- A record kept aside, how many declarations stood in the table before it, and its header. -/
structure Stray where
  before : Nat
  record : Declaration Value
  header : Option Value
  deriving DecidableEq, Repr

/-- A table that is filled record by record, with the records kept aside, and with all bases of the
declarations of which some base is no text. -/
structure Intake where
  table : SymbolTable
  strays : List Stray
  mixedBases : Assoc (List Value)
  deriving DecidableEq, Repr

namespace Intake

def empty : Intake := ⟨.empty, [], []⟩

def size (t : Intake) : Nat := t.table.declarations.length + t.strays.length

def stray? (t : Intake) (name : Value) : Option Stray :=
  t.strays.find? (·.record.name.alike name)

def updateStray (t : Intake) (name : Value) (change : Stray → Stray) : Intake :=
  { t with
    strays := t.strays.map fun s => if s.record.name.alike name then change s else s }

def addStray (t : Intake) (d : Declaration Value) : Intake × Except IntakeFault Bool :=
  match t.stray? d.name with
  | none =>
    ({ t with strays := t.strays ++ [⟨t.table.declarations.length, d, none⟩] },
      .error (.slip .noMember))
  | some kept =>
    match Revisit.of (canonical kept.record) (canonical d) with
    | .passed => (t, .ok false)
    | .takesOver => (t.updateStray d.name fun s => { s with record := d }, .ok true)
    | .differs =>
      let report := duplicateReport d.name "definition" d.unit kept.record.unit
      ({ t with table := t.table.report report }, .ok false)

/-- The bases of a declaration in the table as a document gave them. -/
def basesOf (t : Intake) (d : Declaration String) : List Value :=
  (t.mixedBases.get? d.name).getD (d.bases.map .text)

def record (t : Intake) (d : Declaration String) : Declaration Value :=
  (d.mapName .text).withBases (t.basesOf d)

def keepBases (t : Intake) (name : String) (bases : List Value) : Intake :=
  let others := t.mixedBases.erase name
  { t with mixedBases := if bases.all (·.isText) then others else others ++ [(name, bases)] }

/-- What there is to report of a second definition that differs in bases which the table does not
know. -/
def hiddenReport? (t : Intake) (d : Declaration String) (bases : List Value) : Option Diagnostic :=
  match t.table.get? d.name with
  | some kept =>
    if kept.isFull && d.isFull && kept.sameContent d
        && (t.basesOf kept).map Value.canon != bases.map Value.canon then
      some (duplicateReport (.text d.name) "definition" d.unit kept.unit)
    else none
  | none => none

def add (t : Intake) (d : Declaration Value) : Intake × Except IntakeFault Bool :=
  match settled? d with
  | some s =>
    match t.table.add s with
    | .error fault => (t, .error (.malformed fault))
    | .ok (table, true) => ({ t with table }.keepBases s.name d.bases, .ok true)
    | .ok (table, false) =>
      match t.hiddenReport? s d.bases with
      | some report => ({ t with table := table.report report }, .ok false)
      | none => ({ t with table }, .ok false)
  | none =>
    match refusal? d with
    | some fault => (t, .error fault)
    | none => if d.name.isPlain then t.addStray d else (t, .error (.slip .wrongType))

def addBody (t : Intake) (b : FunctionBody Value) : Intake × Except IntakeFault Bool :=
  match settleBody b with
  | .error fault => (t, .error fault)
  | .ok b =>
    let (table, stored) := t.table.addBody b
    ({ t with table }, .ok stored)

def noteHeader (t : Intake) (d : Declaration Value) (header : Value) : Intake :=
  match settled? d with
  | some d => { t with table := t.table.noteHeader d header }
  | none =>
    if header.holds then t.updateStray d.name fun s => { s with header := some header } else t

def addEach {α : Type} (add : Intake → α → Intake × Except IntakeFault Unit) :
    Intake → List α → Intake × Option IntakeFault
  | t, [] => (t, none)
  | t, a :: rest =>
    match add t a with
    | (t, .error fault) => (t, some fault)
    | (t, .ok _) => addEach add t rest

def addUnit (t : Intake) (u : UnitRecord Value) : Intake × Option IntakeFault :=
  let addNoted (t : Intake) (d : Declaration Value) : Intake × Except IntakeFault Unit :=
    match t.add d with
    | (t, .ok true) => (t.noteHeader d u.header, .ok ())
    | (t, result) => (t, result.map fun _ => ())
  match addEach addNoted t u.declarations with
  | (t, some fault) => (t, some fault)
  | (t, none) => addEach (fun t b => ((t.addBody b).1, (t.addBody b).2.map fun _ => ())) t u.bodies

def addUnits : Intake → List (UnitRecord Value) → Intake × Option IntakeFault
  | t, [] => (t, none)
  | t, u :: rest =>
    match t.addUnit u with
    | (t, some fault) => (t, some fault)
    | (t, none) => addUnits t rest

def place (t : Intake) (id : Nat) : Nat := id + (t.strays.filter (·.before ≤ id)).length

def arena (t : Intake) : List (Declaration Value) :=
  let strayed (n : Nat) : List (Declaration Value) :=
    (t.strays.filter (·.before == n)).map (·.record)
  (t.table.declarations.zipIdx.flatMap fun (d, n) => strayed n ++ [t.record d])
    ++ strayed t.table.declarations.length

def get? (t : Intake) (name : Value) : Except Slip (Option (Declaration Value)) :=
  match name with
  | .text s => .ok ((t.table.get? s).map t.record)
  | v => if v.isPlain then .ok ((t.stray? v).map (·.record)) else .error .wrongType

def idOf? (t : Intake) (name : Value) : Except Slip (Option Nat) :=
  match name with
  | .text s => .ok ((t.table.idOf? s).map t.place)
  | v => if v.isPlain then .ok (t.arena.findIdx? (·.name.alike v)) else .error .wrongType

def header? (t : Intake) (name : Value) : Except Slip (Option Value) :=
  match name with
  | .text s => .ok (t.table.header? s)
  | v => if v.isPlain then .ok ((t.stray? v).bind (·.header)) else .error .wrongType

def headers (t : Intake) : List (Value × Value) :=
  t.table.headers.map (fun (name, header) => (.text name, header))
    ++ t.strays.filterMap fun s => s.header.map (s.record.name, ·)

/-- Resolve a name in a context. A context that is no text is a scope like others as long as the
name is found in it, and has no scopes around it. -/
def resolve? (t : Intake) (name context : Value) : Except Slip (Option (Declaration Value)) :=
  let found (d : Option (Declaration String)) := d.map t.record
  match name, context with
  | .text s, .text scope => .ok (found (t.table.resolve? s scope))
  | .text s, v =>
    if !v.holds || (absolute? s).isSome then .ok (found (t.table.resolve? s ""))
    else
      match t.table.get? (qualify v.shown s) with
      | some d => .ok (found (some d))
      | none => .error .noMember
  | _, _ => .error .noMember

def interfaces (t : Intake) : List Value :=
  (t.arena.filter fun d => d.isInterface && d.isFull).map (·.name)

def baseReport (t : Intake) (context base : Value) : Except Slip (Option Diagnostic) := do
  match ← t.resolve? base context with
  | some _ => return none
  | none =>
    return some ⟨.unresolvedReference, context,
      .text ("base '" ++ base.shown ++ "' is not declared in any unit")⟩

def checkEach : Intake → List (Value × Value) → Intake × Option Slip
  | t, [] => (t, none)
  | t, (context, base) :: rest =>
    match t.baseReport context base with
    | .error slip => (t, some slip)
    | .ok none => checkEach t rest
    | .ok (some d) => checkEach { t with table := t.table.report d } rest

def checkBases (t : Intake) : Intake × Option Slip :=
  t.checkEach (t.arena.flatMap fun d => d.bases.map (d.name, ·))

end Intake

/-- Merge units as documents give them. Where nothing is refused all bases are texts. -/
def SymbolTable.mergeDocuments (units : List (UnitRecord Value)) :
    SymbolTable × Option IntakeFault :=
  match Intake.empty.addUnits units with
  | (t, some fault) => (t.table, some fault)
  | (t, none) =>
    let (t, slip) := t.checkBases
    (t.table, slip.map .slip)

end Understudy
