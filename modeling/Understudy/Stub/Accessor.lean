import Understudy.Cpp.Declaration

/-! Accessors: one distinct name per method of a double.

A method whose identifier no other one has goes by it. Overloads go by their mangled names,
numbered from two where these are taken.
-/

set_option autoImplicit false

namespace Understudy.Accessor

open Understudy.Cpp

def isUnique (methods : List (Method String)) (m : Method String) : Bool :=
  (methods.filter (·.identifier == m.identifier)).length == 1

def numbered (name : String) (n : Nat) : String := name ++ "_" ++ toString n

/-- The name itself if it is free, else the least number from two on that makes it so. Among as
many candidates as there are names in use, and one more, one is free. -/
def fresh (used : List String) (name : String) : String :=
  if !used.contains name then name
  else
    let candidates := (List.range (used.length + 1)).map fun n => numbered name (n + 2)
    (candidates.find? (!used.contains ·)).getD name

/-- Name methods in order; `used` holds the names already given. -/
def assign (methods : List (Method String)) : List String → List (Method String) → List String
  | _, [] => []
  | used, m :: rest =>
    if isUnique methods m then m.identifier :: assign methods used rest
    else
      let accessor := fresh used m.mangled
      accessor :: assign methods (used ++ [accessor]) rest

def names (methods : List (Method String)) : List String :=
  assign methods ((methods.filter (isUnique methods)).map (·.identifier)) methods

end Understudy.Accessor
