import Understudy.Value.Alike

/-! Function bodies and the calls in them. -/

set_option autoImplicit false

namespace Understudy.Cpp

inductive Construct where
  | ifBranch
  | elseBranch
  | forLoop
  | rangeLoop
  | whileLoop
  | doLoop
  | switchBlock
  | caseLabel
  | tryBlock
  | catchBlock
  | lambda
  deriving DecidableEq, Repr

namespace Construct

def keyword : Construct → String
  | .ifBranch => "if"
  | .elseBranch => "else"
  | .forLoop => "for"
  | .rangeLoop => "for_range"
  | .whileLoop => "while"
  | .doLoop => "do"
  | .switchBlock => "switch"
  | .caseLabel => "case"
  | .tryBlock => "try"
  | .catchBlock => "catch"
  | .lambda => "lambda"

def all : List Construct :=
  [.ifBranch, .elseBranch, .forLoop, .rangeLoop, .whileLoop, .doLoop, .switchBlock, .caseLabel,
   .tryBlock, .catchBlock, .lambda]

def ofKeyword? (word : String) : Option Construct := all.find? (·.keyword == word)

theorem ofKeyword?_keyword (c : Construct) : ofKeyword? c.keyword = some c := by
  cases c <;> rfl

end Construct

inductive CallSite where
  | mk (callee : Value) (constructs : List Construct) (arguments : List CallSite)
  deriving Repr

namespace CallSite

def callee : CallSite → Value
  | mk callee _ _ => callee

def constructs : CallSite → List Construct
  | mk _ constructs _ => constructs

def arguments : CallSite → List CallSite
  | mk _ _ arguments => arguments

mutual

def same : CallSite → CallSite → Bool
  | mk f cs args, mk g ds brgs => f == g && cs == ds && sameAll args brgs

def sameAll : List CallSite → List CallSite → Bool
  | [], [] => true
  | a :: as, b :: bs => same a b && sameAll as bs
  | _, _ => false

end

mutual

theorem eq_of_same {a b : CallSite} (h : same a b = true) : a = b := by
  cases a
  cases b
  simp [same] at h
  rw [h.1.1, h.1.2, eq_of_sameAll h.2]

theorem eq_of_sameAll {a b : List CallSite} (h : sameAll a b = true) : a = b := by
  cases a <;> cases b <;> simp [sameAll] at h
  · rfl
  · rw [eq_of_same h.1, eq_of_sameAll h.2]

end

mutual

theorem same_refl (a : CallSite) : same a a = true := by
  cases a
  simp [same]
  exact sameAll_refl _

theorem sameAll_refl (a : List CallSite) : sameAll a a = true := by
  cases a <;> simp [sameAll]
  exact ⟨same_refl _, sameAll_refl _⟩

end

instance : DecidableEq CallSite := fun a b =>
  if h : same a b = true then .isTrue (eq_of_same h)
  else .isFalse fun e => h (e ▸ same_refl a)

mutual

def count : CallSite → Nat
  | mk _ _ arguments => countAll arguments + 1

def countAll : List CallSite → Nat
  | [] => 0
  | call :: rest => count call + countAll rest

end

def push (calls stack : List CallSite) : List CallSite :=
  calls.reverse.foldl (fun stack call => call :: stack) stack

@[simp] theorem push_eq (calls stack : List CallSite) : push calls stack = calls ++ stack := by
  rw [push, List.foldl_reverse]
  exact List.foldr_cons_eq_append'

theorem countAll_append (calls more : List CallSite) :
    countAll (calls ++ more) = countAll calls + countAll more := by
  induction calls with
  | nil => simp [countAll]
  | cons call rest ih => simp only [List.cons_append, countAll, ih, Nat.add_assoc]

theorem count_eq (call : CallSite) : call.count = countAll call.arguments + 1 := by
  cases call
  rw [count, arguments]

/-- Take calls off a stack until it is empty. The arguments of a call go on the stack when it is
taken off. -/
def unstack : List CallSite → List CallSite
  | [] => []
  | call :: stack => call :: unstack (push call.arguments stack)
termination_by stack => countAll stack
decreasing_by
  rw [push_eq, countAll_append, countAll, count_eq]
  omega

/-- All calls in source order, those in arguments after the call that they are arguments of. -/
def sites (calls : List CallSite) : List CallSite := unstack (push calls [])

mutual

/-- The form that all calls share that say the same. -/
def canon : CallSite → CallSite
  | mk callee constructs arguments => mk callee.canon constructs (canonAll arguments)

def canonAll : List CallSite → List CallSite
  | [] => []
  | call :: rest => canon call :: canonAll rest

end

end CallSite

structure FunctionBody (ν : Type) where
  name : ν
  kind : Value
  calls : List CallSite
  unit : Value
  deriving DecidableEq, Repr

namespace FunctionBody

def canon {ν : Type} (b : FunctionBody ν) : FunctionBody ν :=
  { b with kind := b.kind.canon, calls := CallSite.canonAll b.calls, unit := .null }

/-- Whether two records say the same, wherever they come from. -/
def sameContent (a b : FunctionBody String) : Bool := a.canon == b.canon

def mapName {ν μ : Type} (f : ν → μ) (b : FunctionBody ν) : FunctionBody μ :=
  ⟨f b.name, b.kind, b.calls, b.unit⟩

def mapName? {ν μ : Type} (f : ν → Option μ) (b : FunctionBody ν) : Option (FunctionBody μ) :=
  (f b.name).map (⟨·, b.kind, b.calls, b.unit⟩)

def callees {ν : Type} (b : FunctionBody ν) : List Value := (CallSite.sites b.calls).map (·.callee)

end FunctionBody
end Understudy.Cpp
