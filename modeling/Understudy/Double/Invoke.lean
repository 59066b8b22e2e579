import Understudy.Double.Exhibit.Kept
import Understudy.Double.Making
import Understudy.Double.Quoted

/-! Calling live doubles, and other data.

A call of a method is counted and its arguments are kept first. Then the callback answers if one is
set, and otherwise the static slot; a method that hands out an interface falls back on a nested
double, created on first use. Callbacks may call doubles again.
-/

set_option autoImplicit false

namespace Understudy

/-- Members that every double has; methods of the same names are reached by accessor only. -/
inductive OwnMember where
  | invoke
  | nested
  | resetAll
  | caller
  | certainCaller
  | state
  | mark
  | unmark
  | construction
  | nothing
  | data
  deriving DecidableEq, Repr

def OwnMember.ofName? : String → Option OwnMember
  | "invoke" => some .invoke
  | "stub_nested" => some .nested
  | "stub_reset_all" => some .resetAll
  | "_dispatch" => some .caller
  | "__getattr__" => some .certainCaller
  | "__getstate__" => some .state
  | "__setattr__" => some .mark
  | "__delattr__" => some .unmark
  | "__class__" | "__init__" => some .construction
  | "__weakref__" => some .nothing
  | "interface" | "stub" | "stub_counter" | "stub_callback" | "stub_static" | "_nested"
  | "_generator" | "__test__" | "__dict__" | "__module__" | "__doc__" => some .data
  | _ => none

namespace Bench

abbrev Invocation := Bench → Nat → String → List Datum → Outcome

def slipping (b : Bench) (slip : Slip) : Outcome := (b, .error (.slip slip))

/-- The double that a method hands out, created on first use. -/
def nested (b : Bench) (number : Nat) (key : String) : Outcome :=
  match b.double? number with
  | none => b.slipping .noMember
  | some d =>
    match d.stub.method? key with
    | none => (b, .error (.unknownKey (Text.quoted key)))
    | some m =>
      match m.nested, d.nested.get? m.accessor with
      | none, _ => (b, .error (.noInterface key))
      | some _, some there => (b, .ok (.double there))
      | some interface, none =>
        match b.create interface with
        | (b, .error fault) => (b, .error (.generate fault))
        | (b, .ok made) =>
          (b.update number fun d => { d with nested := d.nested.set m.accessor made },
            .ok (.double made))

def withKey (b : Bench) (key : Datum) (use : String → Outcome) : Outcome :=
  match key with
  | .plain (.text key) => use key
  | key => (b, .error (.unknownKey (b.quoted key)))

def withKeyValue (b : Bench) (key : Value) (use : String → Outcome) : Outcome :=
  match key with
  | .text key => use key
  | key => (b, .error (.unknownKey key.quoted))

def callerOf (b : Bench) (number : Nat) (name : String) : Outcome :=
  b.working (Work.allocate (.caller number name))

/-- Put a datum on a double under a name. What a double answers by itself cannot be put on it, and
what it is made of stays. -/
def mark (b : Bench) (number : Nat) (name : String) (d : Datum) : Outcome :=
  match OwnMember.ofName? name with
  | some .construction => if name == "__class__" then b.slipping .wrongType else put
  | some .data =>
    if name == "interface" then b.slipping .noMember
    else if name == "__dict__" then b.slipping .wrongType
    else (b, .ok .nothing)
  | some .nothing => b.slipping .noMember
  | _ => put
where
  put : Outcome :=
    (b.update number fun double => { double with marks := double.marks.set name d }, .ok .nothing)

def unmark (b : Bench) (number : Nat) (name : String) : Outcome :=
  if name == "__class__" then b.slipping .wrongType
  else if ((b.double? number).map (·.marks.has name)).getD false then
    (b.update number fun d => { d with marks := d.marks.filter (·.1 != name) }, .ok .nothing)
  else b.slipping .noMember

def callOwn (invoke : Invocation) (b : Bench) (number : Nat) (args : List Datum) :
    OwnMember → Outcome
  | .invoke =>
    match args with
    | key :: rest => b.withKey key fun key => invoke b number key rest
    | [] => b.slipping .wrongType
  | .nested => b.answeringOne args fun key => b.withKey key (b.nested number)
  | .resetAll => b.answeringNone args (b.resetAll number, .ok .nothing)
  | .caller =>
    match args with
    | [.plain (.text name)] => b.callerOf number name
    | _ => b.slipping .wrongType
  | .certainCaller =>
    match args, b.double? number with
    | [.plain (.text name)], some d =>
      match certainMethods d name with
      | .ok () => b.callerOf number name
      | .error fault => (b, .error fault)
    | [.bytes _], _ => b.slipping .wrongType
    | [_], _ => b.slipping .noMember
    | _, _ => b.slipping .wrongType
  | .state =>
    match b.double? number with
    | some d =>
      b.answeringNone args
        (b.working (Exhibit.settle number [.attribute "__dict__"] (.table (b.ownTable number d))))
    | none => b.slipping .noMember
  | .mark =>
    match args with
    | [.plain (.text name), d] => b.mark number name d
    | _ => b.slipping .wrongType
  | .unmark =>
    match args with
    | [.plain (.text name)] => b.unmark number name
    | _ => b.slipping .wrongType
  | .construction => b.slipping (if args.length = 2 then .noMember else .wrongType)
  | .nothing | .data => b.slipping .wrongType

/-- Whether an attribute is found only because others are asked for. -/
def isBorrowed (e : Exhibit) (name : String) : Bool :=
  match e with
  | .space .. => !Double.spaceMembers.contains name
  | .record .counter .. => parameterLead.isPrefixOf name.toList
  | _ => false

def isCallable (b : Bench) : Datum → Bool
  | .operation .. | .kind _ => true
  | .cell address =>
    match b.heap.get? address with
    | some (.caller ..) => true
    | _ => false
  | _ => false

def memberOf (b : Bench) (d : Datum) (name : String) : Outcome :=
  match d with
  | .double number | .twin number =>
    match (b.double? number).bind (b.ownAttribute? number · (.datum d) name) with
    | some e => b.working (e.settle number [.attribute name])
    | none => b.slipping .noMember
  | .kept number way =>
    b.settling number (way ++ [.attribute name]) do
      let e ← b.exhibit d
      if isBorrowed e name then throw (.slip .noMember) else b.attributeOf e name
  | d =>
    match b.heap.member? b.label d name with
    | some (.data part) => (b, .ok part)
    | some (.proxy address) => b.working (Work.allocate (.proxy address))
    | some (.construction kind) => (b, .ok (.kind kind))
    | some .description => (b, .ok (.plain (.text (b.heap.words d))))
    | some _ => (b, .ok (.operation d name))
    | none =>
      if name == "__call__" && b.isCallable d then (b, .ok (.operation d name))
      else b.slipping .noMember

/-- Call the methods of a double that have a name. Overloads are told apart by their number of
parameters. -/
def dispatch (invoke : Invocation) (b : Bench) (number : Nat) (name : String)
    (args : List Datum) : Outcome :=
  let candidates := ((b.double? number).map (·.stub.methodsNamed name)).getD []
  match candidates.filter (·.arity == args.length) with
  | [m] => invoke b number m.accessor args
  | _ => (b, .error (.noOverload name args.length (candidates.map (·.accessor))))

/-- What members use beside the heap. -/
structure Means where
  invoke : Invocation
  absorb : Bench → Nat → Datum → Outcome

def constructObject (means : Means) (b : Bench) (args : List Datum) : Outcome :=
  let (heap, made) := b.heap.allocate (.object [])
  let b := { b with heap }
  match made, args with
  | _, [] => (b, .ok made)
  | .cell address, [d] =>
    let (b, result) := means.absorb b address d
    (b, result.map fun _ => made)
  | _, _ => b.slipping .wrongType

def construct (means : Means) (b : Bench) (kind : String) (args : List Datum) : Outcome :=
  match kind with
  | "dict" => b.constructObject means args
  | "TestDouble" => callOwn means.invoke b 0 args .construction
  | "type" => b.answeringOne args fun d => (b, .ok (.kind (b.kindName d)))
  | kind => b.working (Making.make b.label kind args)

def useMember (means : Means) (b : Bench) (d : Datum) (args : List Datum) : Member → Outcome
  | .data _ | .proxy _ | .description => b.slipping .wrongType
  | .operation run => b.working (run args)
  | .template text false => (b, (b.fill (.positions args) text).map .ofChars)
  | .template text true =>
    b.answeringOne args fun d => (b, (b.fill (.names d) text).map .ofChars)
  | .absorption address answersObject =>
    match args with
    | [d] =>
      let (b, result) := means.absorb b address d
      (b, result.map fun _ => if answersObject then .cell address else .nothing)
    | [] => if answersObject then b.slipping .wrongType else (b, .ok .nothing)
    | _ => b.slipping .wrongType
  | .construction kind => b.construct means kind args
  | .inquiry =>
    match args with
    | [.plain (.text name)] => b.memberOf d name
    | _ => b.slipping .wrongType

def callDouble? (means : Means) (b : Bench) (d : Datum) (number : Nat) (name : String)
    (args : List Datum) : Option Outcome :=
  match OwnMember.ofName? name with
  | some member => some (callOwn means.invoke b number args member)
  | none => (Member.common? b.label d name).map (b.useMember means d args)

def callMember (means : Means) (b : Bench) (d : Datum) (name : String) (args : List Datum) :
    Outcome :=
  match b.heap.member? b.label d name with
  | some member => b.useMember means d args member
  | none => b.slipping .noMember

def callKept (means : Means) (b : Bench) (number : Nat) (way : List Turn) (name : String)
    (args : List Datum) : Outcome :=
  let d := Datum.kept number way
  match b.exhibit d with
  | .error fault => (b, .error fault)
  | .ok e =>
    match b.keptOperation? number way e args name, Member.idle? name, b.attributeOf e name with
    | some outcome, _, _ => outcome
    | none, some member, _ => b.useMember means d args member
    | none, none, .ok _ => b.slipping .wrongType
    | none, none, .error fault => (b, .error fault)

def callOwned (means : Means) (b : Bench) (args : List Datum) : Datum → String → Outcome
  | .operation owner own, name =>
    if name == "__call__" then callOwned means b args owner own
    else b.callMember means (.operation owner own) name args
  | .double number, name =>
    (b.callDouble? means (.double number) number name args).getD (b.slipping .noMember)
  | .twin number, name =>
    (b.callDouble? means (.twin number) number name args).getD (b.slipping .noMember)
  | .kept number way, name => b.callKept means number way name args
  | .kind kind, name =>
    if name == "__call__" then b.construct means kind args
    else b.callMember means (.kind kind) name args
  | .cell address, name =>
    match b.heap.get? address, name with
    | some (.caller number method), "__call__" => b.dispatch means.invoke number method args
    | _, name => b.callMember means (.cell address) name args
  | d, name => b.callMember means d name args

def callDatum (means : Means) (b : Bench) (d : Datum) (args : List Datum) : Outcome :=
  if b.isCallable d then b.callOwned means args d "__call__" else b.slipping .wrongType

def callWith (means : Means) (b : Bench) (d : Datum) (number : Nat) (name : String)
    (args : List Datum) : Outcome :=
  match b.double? number with
  | none => b.slipping .noMember
  | some double =>
    match double.marks.get? name, b.callDouble? means d number name args with
    | some mark, _ => b.callDatum means mark args
    | none, some outcome => outcome
    | none, none =>
      match certainMethods double name with
      | .ok () => b.dispatch means.invoke number name args
      | .error fault => (b, .error fault)

def callNamed (means : Means) (b : Bench) (d : Datum) (name : String) (args : List Datum) :
    Outcome :=
  match d with
  | .double number | .twin number => b.callWith means d number name args
  | d => b.callOwned means args d name

def answersTo (b : Bench) (number : Nat) (name : String) : Bool :=
  match b.double? number with
  | none => false
  | some d =>
    match d.marks.get? name with
    | some mark => !mark.isNothing
    | none =>
      match OwnMember.ofName? name with
      | some member => member != .nothing
      | none =>
        (Member.common? b.label (.double number) name).isSome || (certainMethods d name).isOk

def absorbPlain (b : Bench) (address : Nat) (d : Datum) : Outcome :=
  b.working do
    Member.absorb address d
    return .nothing

/-- Take the entries of a datum into the object at an address. A double that has keys is asked for
them, but nothing lies under its keys. -/
def absorb (invoke : Invocation) (b : Bench) (address : Nat) (d : Datum) : Outcome :=
  let ofDouble (number : Nat) : Outcome :=
    if b.answersTo number "keys" then
      match b.callWith ⟨invoke, absorbPlain⟩ d number "keys" [] with
      | (b, .error fault) => (b, .error fault)
      | (b, .ok keys) =>
        b.working do
          if (← Work.parts keys).isEmpty then return .nothing else throw .wrongType
    else b.slipping .wrongType
  match d with
  | .double number | .twin number => ofDouble number
  | d => b.absorbPlain address d

def Means.of (invoke : Invocation) : Means := ⟨invoke, Bench.absorb invoke⟩

def callCount (b : Bench) (number : Nat) (accessor : Value) : Except Slip Nat :=
  match accessor, b.double? number with
  | _, none => .error .noMember
  | .text key, some d =>
    match d.counter? key with
    | some counter => .ok counter.calls
    | none => .error .noKey
  | v, some _ => .error (if v.isPlain then .noKey else .wrongType)

def perform (invoke : Invocation) (b : Bench) (args : List Datum) : Action → Outcome
  | .answer d => (b, .ok d)
  | .named name => (b, (b.locals.find name).mapError .slip)
  | .held handle => (b, (b.handles.find handle).mapError .slip)
  | .argument index => (b, (pickAt args index).mapError .slip)
  | .arguments =>
    let (heap, all) := b.heap.allocate (.list args)
    ({ b with heap }, .ok all)
  | .count handle accessor =>
    let calls := (b.numberUnder handle).bind (b.callCount · accessor)
    (b, (calls.map fun n => .plain (.int n)).mapError .slip)
  | .invoke handle accessor =>
    match b.numberUnder handle with
    | .error slip => b.slipping slip
    | .ok number => b.withKeyValue accessor fun key => invoke b number key args
  | .fail => (b, .error .failed)

def implements (b : Bench) (d : Datum) (name : String) : Bool :=
  match d with
  | .kept .. =>
    match b.exhibit d >>= (b.attributeOf · name) with
    | .ok (.datum (.plain .null)) | .error _ => false
    | .ok _ => true
  | d =>
    match b.heap.member? b.label d name with
    | none | some (.data (.plain .null)) => false
    | some _ => true

def written (b : Bench) (d : Datum) : String :=
  match b.exhibit d with
  | .ok e => e.quoted b.quoted
  | .error _ => b.quoted d

/-- Hand a call of a method of a double over to what stands in its callback slot: to the method of
that name, or to itself if it can be called. A member that is nothing is none. -/
def handOver (invoke : Invocation) (b : Bench) (number : Nat) (method : String)
    (args : List Datum) (callback : Callback) : Outcome :=
  let means := Means.of invoke
  let deaf (written : String) : Outcome := (b, .error (.deafCallback written method))
  let slot := Datum.kept number
    [.attribute "stub_callback", .key method, .attribute "callback"]
  let thing (otherwise : Outcome) : Outcome :=
    ((Member.ofThing? "<callback>" method).map (b.useMember means slot args)).getD otherwise
  match callback with
  | .function action => thing (b.perform invoke args action)
  | .object name action =>
    if name = method then b.perform invoke args action else thing (deaf "<callback>")
  | .inert => thing (deaf "<callback>")
  | .datum (.double other) | .datum (.twin other) =>
    if b.answersTo other method then b.callWith means (.double other) other method args
    else deaf (b.label other)
  | .datum d =>
    if b.implements d method then b.callNamed means d method args
    else if b.isCallable d then b.callDatum means d args
    else deaf (b.written d)

def fallBack (b : Bench) (number : Nat) (m : InstrumentedMethod) : Outcome :=
  if m.isVoid then (b, .ok .nothing)
  else
    match (b.double? number).bind (·.static? m.accessor) with
    | none => b.slipping .noKey
    | some answer =>
      if m.returnKind.returnsInterface && answer.current.isNothing then b.nested number m.accessor
      else (b, .ok answer.current)

/-- Invoke a method by accessor or mangled name. The fuel bounds how deep callbacks call back. -/
def invokeWith : Nat → Invocation
  | 0, b, _, _, _ => (b, .error .endless)
  | fuel + 1, b, number, key, args =>
    match b.double? number with
    | none => b.slipping .noMember
    | some d =>
      match d.stub.method? key with
      | none => (b, .error (.unknownKey (Text.quoted key)))
      | some m =>
        if args.length = m.arity then
          -- counted even if the callback gives up later
          match b.accept number m args, d.callback? m.accessor with
          | (b, .error slip), _ => b.slipping slip
          | (b, .ok ()), some callback =>
            let (b, result) := b.handOver (invokeWith fuel) number m.accessor args callback
            (b, if m.isVoid then result.map fun _ => .nothing else result)
          | (b, .ok ()), none => b.fallBack number m
        else (b, .error (.wrongArity d.stub.interface m.name m.arity args.length))

/-- How deep calls can lie in each other: where one method is entered twice with the same number
of arguments, callbacks go round in circles. -/
def depth (b : Bench) (args : List Datum) : Nat :=
  (b.doubles.foldl (fun n d => n + d.listening) 0 + 1) * (args.length + 1)

def invoke (b : Bench) (number : Nat) (key : String) (args : List Datum) : Outcome :=
  invokeWith (b.depth args) b number key args

def callHeld (b : Bench) (d : Datum) (name : Value) (args : List Datum) : Outcome :=
  match name with
  | .text name => b.callNamed (.of (invokeWith (b.depth args))) d name args
  | _ => b.slipping .wrongType

def append (b : Bench) (target : Datum) (path : List Value) (d : Datum) : Outcome :=
  match b.heap.follow target path with
  | .error slip => b.slipping slip
  | .ok place => b.callHeld place (.text "append") [d]

end Bench
end Understudy
