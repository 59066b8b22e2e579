import Understudy.Double.Fill

/-! What doubles keep, in the hands of a test.

An exhibit becomes a datum: tables and tuples are laid out on the heap, and a record, a choice or a
space is reached by the way that leads to it, so that the test sees later changes.
-/

set_option autoImplicit false

namespace Understudy

def directWay : List Turn → List Turn
  | .attribute "__dict__" :: .key name :: rest => .attribute name :: rest
  | way => way

/-- What a double keeps at the end of a way; at its beginning stands the double. -/
def Datum.at_ (number : Nat) (way : List Turn) : Datum :=
  if way.isEmpty then .double number else .kept number (directWay way)

namespace Exhibit

mutual

def settle (number : Nat) (way : List Turn) : Exhibit → Work Datum
  | .datum d => pure d
  | .tuple items => do Work.allocate (.tuple (← settleItems number way 0 items))
  | .table entries => do Work.allocate (.object (← settleEntries number way entries))
  | .proxy (.cell address) => Work.allocate (.proxy address)
  | .operation _ name _ => pure (.operation (.at_ number way.dropLast) name)
  | .category _ name => pure (.kind name)
  | _ => pure (.at_ number way)

def settleItems (number : Nat) (way : List Turn) (index : Nat) : List Exhibit → Work (List Datum)
  | [] => pure []
  | e :: rest => do
    let d ← settle number (way ++ [.item index]) e
    return d :: (← settleItems number way (index + 1) rest)

def settleEntries (number : Nat) (way : List Turn) :
    List (String × Exhibit) → Work (List (Datum × Datum))
  | [] => pure []
  | (key, e) :: rest => do
    let d ← settle number (way ++ [.key key]) e
    return (.plain (.text key), d) :: (← settleEntries number way rest)

end

def textUnder? (e : Exhibit) (name : String) : Option String :=
  match e with
  | .record _ parts hidden derived _ =>
    match Assoc.get? (parts ++ hidden ++ derived) name with
    | some (.datum (.plain (.text s))) => some s
    | _ => none
  | _ => none

end Exhibit

def Space.ofName? : String → Option Space
  | "stub_counter" => some .counter
  | "stub_callback" => some .callback
  | "stub_static" => some .static
  | _ => none

def slotOnWay? : List Turn → Option (Space × String)
  | [.attribute space, .key accessor] | [.attribute space, .attribute accessor]
  | [.attribute space, .attribute "_slots", .key accessor] =>
    (Space.ofName? space).map (·, accessor)
  | _ => none

namespace Bench

abbrev Outcome := Bench × Except CallFault Datum

def working (b : Bench) (work : Work Datum) : Outcome :=
  let (b, result) := b.onHeap work
  (b, result.mapError .slip)

def answeringNone (b : Bench) (args : List Datum) (outcome : Outcome) : Outcome :=
  if args.isEmpty then outcome else (b, .error (.slip .wrongType))

def answeringOne (b : Bench) (args : List Datum) (f : Datum → Outcome) : Outcome :=
  match args with
  | [d] => f d
  | _ => (b, .error (.slip .wrongType))

def settling (b : Bench) (number : Nat) (way : List Turn) (e : Except CallFault Exhibit) :
    Outcome :=
  match e with
  | .ok e => b.working (e.settle number way)
  | .error fault => (b, .error fault)

def methodsAt (number : Nat) (way : List Turn) (methods : List Exhibit) (test : Exhibit → Bool) :
    List Datum :=
  (methods.zipIdx.filter fun (m, _) => test m).map fun (_, place) =>
    .kept number (way ++ [.attribute "methods", .item place])

def stubOperation? (b : Bench) (number : Nat) (way : List Turn) (methods : List Exhibit)
    (args : List Datum) : String → Option Outcome
  | "method" =>
    some (b.answeringOne args fun key =>
      let matching (name : String) : List Datum :=
        methodsAt number way methods fun m =>
          (m.textUnder? name).any fun s => key == .plain (.text s)
      match matching "accessor" ++ matching "mangled" with
      | d :: _ => (b, .ok d)
      | [] => (b, .error (.unknownKey (b.quoted key))))
  | "methods_named" =>
    some (b.answeringOne args fun key =>
      b.working (Work.allocate (.list (methodsAt number way methods fun m =>
        (m.textUnder? "name").any fun s => key == .plain (.text s)))))
  | _ => none

def spaceOperation? (b : Bench) (number : Nat) (way : List Turn) (chosen : Space)
    (args : List Datum) (name : String) : Option Outcome := do
  let d ← b.double? number
  match name with
  | "reset_all" =>
    some (b.answeringNone args (b.resetSpace number chosen, .ok .nothing))
  | "__len__" => some (b.answeringNone args (b, .ok (.int (d.accessors chosen).length)))
  | "__contains__" =>
    some (b.answeringOne args fun key =>
      match key with
      | .plain (.text key) => (b, .ok (.truth (d.has chosen key)))
      | key =>
        if b.heap.isKey key then (b, .ok (.truth false)) else (b, .error (.slip .wrongType)))
  | "__getitem__" =>
    some (b.answeringOne args fun key =>
      match key with
      | .plain (.text name) =>
        b.settling number (way ++ [.key (d.stub.slotKey name)]) (spaceItem d chosen key)
      | key => (b, .error (.slip (if b.heap.isKey key then .noKey else .wrongType))))
  | "__getattr__" =>
    some (b.answeringOne args fun key =>
      match key with
      | .plain (.text name) =>
        if name.startsWith "_" || !d.has chosen name then (b, .error (.noAttribute name))
        else
          b.settling number (way ++ [.key (d.stub.slotKey name)])
            (spaceItem d chosen (.plain (.text name)))
      | _ => (b, .error (.slip .noMember)))
  | "__iter__" =>
    some (b.answeringNone args (b.working do
      let keys : List (Datum × Datum) :=
        (d.accessors chosen).map fun accessor => (.plain (.text accessor), .nothing)
      match ← Work.allocate (.object keys) with
      | .cell address =>
        Work.allocate (.cursor (.start (.entries address .keys false keys.length)))
      | d => return d))
  | _ => none

def exhibitTexts? (b : Bench) (e : Exhibit) (args : List Datum) : String → Option Outcome
  | "__repr__" => some (b.answeringNone args (b, .ok (.ofChars (b.exhibitQuoted e))))
  | "__str__" =>
    some (b.answeringNone args (b, ((b.exhibitText e).map .ofChars).mapError .slip))
  | "__format__" =>
    some (b.answeringOne args fun spec =>
      let text : Except Slip Datum := do return .ofChars (← b.layOut (← spec.text) e)
      (b, text.mapError .slip))
  | _ => none

def keptOperation? (b : Bench) (number : Nat) (way : List Turn) (e : Exhibit) (args : List Datum)
    (name : String) : Option Outcome :=
  let own : Option Outcome :=
    match e, slotOnWay? way with
    | .space owner chosen, _ => b.spaceOperation? owner way chosen args name
    | .record .stub parts _ _ _, _ =>
      match Assoc.get? parts "methods" with
      | some (.tuple methods) => b.stubOperation? number way methods args name
      | _ => none
    | .record kind .., some (chosen, accessor) =>
      if kind.isSlot && name == "reset" then
        some (b.answeringNone args (b.reset number chosen accessor, .ok .nothing))
      else none
    | _, _ => none
  own <|> b.exhibitTexts? e args name

end Bench
end Understudy
