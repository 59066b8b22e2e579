import Understudy.Text.Cut

/-! Qualified names: scopes are separated by double colons. -/

set_option autoImplicit false

namespace Understudy.Cpp

def scopeMark : List Char := [':', ':']

/-- The last component of a qualified name. -/
def shortName (name : String) : String :=
  match Text.cutLast scopeMark name.toList with
  | some (_, last) => String.ofList last
  | none => name

def parentScope? (name : String) : Option String :=
  (Text.cutLast scopeMark name.toList).map fun (scope, _) => String.ofList scope

/-- A name inside a scope. -/
def qualify (scope name : String) : String := scope ++ "::" ++ name

def endsInScoped (name suffix : String) : Bool :=
  ("::" ++ suffix).toList.isSuffixOf name.toList

/-- What follows a leading scope mark. -/
def absolute? (name : String) : Option String :=
  if scopeMark.isPrefixOf name.toList then some (String.ofList (name.toList.drop 2)) else none

def isScoped (name : String) : Bool := (Text.cutLast scopeMark name.toList).isSome

theorem length_parentScope_lt {name scope : String} (h : parentScope? name = some scope) :
    scope.length < name.length := by
  simp only [parentScope?, Option.map_eq_some_iff, Prod.exists] at h
  obtain ⟨before, after, cut, rfl⟩ := h
  have lengths := congrArg List.length (Text.cutLast_append cut)
  simp only [List.length_append, String.length_toList] at lengths
  have : scopeMark.length = 2 := rfl
  rw [String.length_ofList]
  omega

end Understudy.Cpp
