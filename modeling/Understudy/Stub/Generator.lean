import Understudy.Ownership.Classification
import Understudy.Slip
import Understudy.Stub.Accessor
import Understudy.Stub.Flatten
import Understudy.Stub.Model

/-! Generating doubles.

Doubles are kept under their interfaces. Interfaces that methods hand out are taken from a
worklist, so cyclic return types come to an end and every interface has one double.
-/

set_option autoImplicit false

namespace Understudy

open Understudy.Cpp

inductive InterfaceFault where
  | undeclared (name : String)
  | notInterface (name : String)
  | onlyForward (name : String)
  deriving DecidableEq, Repr

def InterfaceFault.message : InterfaceFault → String
  | .undeclared name => "'" ++ name ++ "' is not declared in any unit"
  | .notInterface name => "'" ++ name ++ "' is a class, not an interface"
  | .onlyForward name => "'" ++ name ++ "' is only forward declared"

inductive GenerateFault where
  | interface (fault : InterfaceFault)
  | slip (slip : Slip)
  deriving DecidableEq, Repr

namespace SymbolTable

def interface (t : SymbolTable) (name : String) : Except InterfaceFault (Declaration String) :=
  match t.resolve? name "" with
  | none => .error (.undeclared name)
  | some d =>
    if !d.isInterface then .error (.notInterface d.name)
    else if !d.isFull then .error (.onlyForward d.name)
    else .ok d

/-- How a method returns, and the interface it hands out. -/
def returnKind (t : SymbolTable) (declaring : String) (type : SemanticType) :
    ReturnKind × Option String :=
  let handedOut (name : String) : Option String :=
    match t.resolve? name declaring with
    | some d => if d.isInterface && d.isFull then some d.name else none
    | none => none
  match type with
  | .primitive name _ => if name == "void" then (.void, none) else (.value, none)
  | .named _ _ | .misnamed .. => (.value, none)
  | .pointer (.named name _) _ =>
    match handedOut name with
    | some interface => (.interfacePointer, some interface)
    | none => (.value, none)
  | .pointer _ _ => (.value, none)
  | .reference (.named name _) _ =>
    match handedOut name with
    | some interface => (.interfaceReference, some interface)
    | none => (.reference, none)
  | .reference _ _ => (.reference, none)

def handsOutUnfit : SemanticType → Bool
  | .pointer (.misnamed builtin ..) _ | .reference (.misnamed builtin ..) _ => !builtin
  | _ => false

/-- Instrument a method under an accessor. A method without return type cannot be, nor one that
hands out what cannot be looked up. -/
def instrument (t : SymbolTable) (inherited : Inherited) (accessor : String) :
    Except Slip InstrumentedMethod :=
  let (declaring, method) := inherited
  match method.returnType with
  | none => .error .noMember
  | some returnType =>
    if handsOutUnfit returnType then .error .noMember
    else
      let (returnKind, nested) := t.returnKind declaring returnType
      .ok { accessor, declaring, method, returnType, returnKind, nested }

def passThrough (inherited : Inherited) : Except Slip PassthroughMethod :=
  let (declaring, method) := inherited
  match method.returnType with
  | none => .error .noMember
  | some returnType => .ok { declaring, method, returnType }

def buildStub (t : SymbolTable) (lead : Value) (d : Declaration String) : Except Slip Stub := do
  let flat := t.flatten d
  if !flat.isSpelled then throw .wrongType
  let accessors := Accessor.names (flat.methods.map (·.2))
  let methods ← (flat.methods.zip accessors).mapM fun (m, accessor) => t.instrument m accessor
  let passthrough ← flat.passthrough.mapM passThrough
  let some lead := lead.text? | throw .wrongType
  return { interface := d.name
           lead
           suffix := Text.flatName d.name
           methods
           passthrough
           nested := (methods.filterMap (·.nested)).eraseDups
           unresolvedBases := flat.unresolved }

end SymbolTable

structure Generator where
  table : SymbolTable
  classification : Option Classification
  /-- The words that lead the names of doubles, as settings give them. -/
  lead : Value
  memo : Assoc Stub
  deriving DecidableEq, Repr

namespace Generator

def reportFlat (g : Generator) (d : Declaration String) : Generator :=
  { g with table :=
      { g.table with
        diagnostics := g.table.diagnostics.reportAll (g.table.flatten d).reports } }

/-- Build and keep the doubles of a worklist of interfaces and of those they hand out. Every
step keeps a new double, and the fuel bounds their number. -/
def work : Nat → Generator → List String → Generator × Option Slip
  | 0, g, _ => (g, none)
  | fuel + 1, g, worklist =>
    match worklist.dropWhile fun name => g.memo.has name with
    | [] => (g, none)
    | name :: rest =>
      match g.table.get? name with
      | none => (g, some .noMember)
      | some d =>
        let reported := g.reportFlat d
        match g.table.buildStub g.lead d with
        | .error slip => (reported, some slip)
        | .ok stub =>
          work fuel { reported with memo := g.memo.set d.name stub } (rest ++ stub.nested)

def generate (g : Generator) (name : String) : Generator × Except GenerateFault Stub :=
  match g.table.interface name with
  | .error fault => (g, .error (.interface fault))
  | .ok d =>
    match work (g.table.declarations.length + 1) g [d.name] with
    | (g, some slip) => (g, .error (.slip slip))
    | (g, none) =>
      match g.memo.get? d.name with
      | some stub => (g, .ok stub)
      | none => (g, .error (.slip .noKey))

def generateEach : Generator → List String → Generator × Option GenerateFault
  | g, [] => (g, none)
  | g, name :: rest =>
    match g.generate name with
    | (g, .error fault) => (g, some fault)
    | (g, .ok _) => generateEach g rest

/-- The interfaces of all doubles kept so far, in dependency order, or in the order of the arena
where nothing is classified. -/
def interfaceOrder (g : Generator) : List String :=
  match g.classification with
  | some c => c.sort g.memo.keys
  | none =>
    let rank (name : String) : Nat := (g.table.idOf? name).getD 0
    g.memo.keys.mergeSort fun a b => rank a ≤ rank b

def stubs (g : Generator) : List Stub := g.interfaceOrder.filterMap g.memo.get?

end Generator
end Understudy
