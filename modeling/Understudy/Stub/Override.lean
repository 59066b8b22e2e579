import Understudy.Stub.Model

/-! The bodies of overriding methods, statement by statement.

Every override counts the call, stores its arguments, hands over to the callback if one is set,
and otherwise answers from the static slot or with the nested double.
-/

set_option autoImplicit false

namespace Understudy

open Understudy.Cpp

inductive Statement where
  | count
  /-- Keep an argument, by its address or by its value. -/
  | store (index : Nat) (byAddress : Bool)
  /-- Call the callback if it is set, and return what it returns. -/
  | handOver (returns : Bool)
  /-- Return the static slot if it is set, or what it points to. -/
  | returnStaticIfSet (dereferenced : Bool)
  | returnStatic
  /-- Return the nested double or its address. -/
  | returnNested (address : Bool)
  deriving DecidableEq, Repr

def fallback : ReturnKind → List Statement
  | .void => []
  | .interfaceReference => [.returnStaticIfSet true, .returnNested false]
  | .interfacePointer => [.returnStaticIfSet false, .returnNested true]
  | .value | .reference => [.returnStatic]

def overrideBody (m : InstrumentedMethod) : List Statement :=
  [.count]
    ++ m.method.parameters.zipIdx.map (fun (p, index) => .store index p.type.isReference)
    ++ [.handOver (!m.isVoid)]
    ++ fallback m.returnKind

def indentation : String := "    "

def twice : String := indentation ++ indentation

def argumentList (arity : Nat) : String :=
  ", ".intercalate ((List.range arity).map fun index => "x" ++ toString index)

namespace Statement

def guarded (condition statement : String) : List String :=
  [indentation ++ "if (" ++ condition ++ ") \x7b", twice ++ statement, indentation ++ "\x7d"]

def lines (m : InstrumentedMethod) : Statement → List String
  | .count => [indentation ++ "stub_counter." ++ m.accessor ++ "().call_counter++;"]
  | .store index byAddress =>
    [indentation ++ "stub_counter." ++ m.accessor ++ "()." ++ InstrumentedMethod.slotName index
      ++ " = " ++ (if byAddress then "&x" else "x") ++ toString index ++ ";"]
  | .handOver returns =>
    let callback := "stub_callback." ++ m.accessor ++ "().callback"
    guarded (callback ++ " != 0")
      ((if returns then "return " else "") ++ callback ++ "->" ++ m.accessor ++ "("
        ++ argumentList m.arity ++ ");")
  | .returnStaticIfSet dereferenced =>
    let static := "stub_static." ++ m.accessor ++ "().stub_return"
    guarded (static ++ " != 0") ("return " ++ (if dereferenced then "*" else "") ++ static ++ ";")
  | .returnStatic => [indentation ++ "return stub_static." ++ m.accessor ++ "().stub_return;"]
  | .returnNested address =>
    [indentation ++ "return " ++ (if address then "&" else "") ++ "StubNested_" ++ m.accessor
      ++ "();"]

end Statement
end Understudy
