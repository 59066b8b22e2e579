import Understudy.Assoc
import Understudy.Number.Binary64

/-! Values of documents and properties.

Objects keep their entries in the order in which the keys first appeared; a key has one entry.
-/

set_option autoImplicit false

namespace Understudy

inductive Value where
  | null
  | bool (b : Bool)
  | int (n : Int)
  | real (x : Binary64)
  | text (s : String)
  | list (items : List Value)
  | object (entries : List (String × Value))
  deriving Repr

namespace Value

mutual

/-- Structural equality: numbers of different kinds are different values. -/
def same : Value → Value → Bool
  | .null, .null => true
  | .bool a, .bool b => a == b
  | .int a, .int b => a == b
  | .real a, .real b => a == b
  | .text a, .text b => a == b
  | .list a, .list b => sameItems a b
  | .object a, .object b => sameEntries a b
  | _, _ => false

def sameItems : List Value → List Value → Bool
  | [], [] => true
  | a :: as, b :: bs => same a b && sameItems as bs
  | _, _ => false

def sameEntries : List (String × Value) → List (String × Value) → Bool
  | [], [] => true
  | (k, a) :: as, (l, b) :: bs => k == l && same a b && sameEntries as bs
  | _, _ => false

end

mutual

theorem eq_of_same {a b : Value} (h : same a b = true) : a = b := by
  cases a <;> cases b <;> simp [same] at h <;> try (subst h; rfl)
  · rfl
  · rw [eq_of_sameItems h]
  · rw [eq_of_sameEntries h]

theorem eq_of_sameItems {a b : List Value} (h : sameItems a b = true) : a = b := by
  cases a <;> cases b <;> simp [sameItems] at h
  · rfl
  · rw [eq_of_same h.1, eq_of_sameItems h.2]

theorem eq_of_sameEntries {a b : List (String × Value)} (h : sameEntries a b = true) : a = b := by
  cases a with
  | nil => cases b with
    | nil => rfl
    | cons y b => simp [sameEntries] at h
  | cons x a => cases b with
    | nil => simp [sameEntries] at h
    | cons y b =>
      obtain ⟨k, v⟩ := x
      obtain ⟨l, w⟩ := y
      simp [sameEntries] at h
      rw [h.1.1, eq_of_same h.1.2, eq_of_sameEntries h.2]

end

mutual

theorem same_refl (a : Value) : same a a = true := by
  cases a <;> simp [same]
  · exact sameItems_refl _
  · exact sameEntries_refl _

theorem sameItems_refl (a : List Value) : sameItems a a = true := by
  cases a <;> simp [sameItems]
  exact ⟨same_refl _, sameItems_refl _⟩

theorem sameEntries_refl (a : List (String × Value)) : sameEntries a a = true := by
  cases a with
  | nil => rfl
  | cons x a =>
    obtain ⟨k, v⟩ := x
    simp [sameEntries]
    exact ⟨same_refl _, sameEntries_refl _⟩

end

instance : DecidableEq Value := fun a b =>
  if h : same a b = true then .isTrue (eq_of_same h)
  else .isFalse fun e => h (e ▸ same_refl a)

instance : Inhabited Value := ⟨.null⟩

end Value

abbrev Entries := Assoc Value

namespace Value

def text? : Value → Option String
  | .text s => some s
  | _ => none

/-- Whether a value counts as given: nothing, false, zero and empty texts, lists and objects
do not. -/
def holds : Value → Bool
  | .null => false
  | .bool b => b
  | .int n => n != 0
  | .real x => !x.isZero
  | .text s => !s.isEmpty
  | .list items => !items.isEmpty
  | .object entries => !entries.isEmpty

/-- The parts a value yields one by one: the items of a list, the characters of a text, the
keys of an object. -/
def parts? : Value → Option (List Value)
  | .list items => some items
  | .text s => some (s.toList.map fun c => .text (String.ofList [c]))
  | .object entries => some (entries.map fun (key, _) => .text key)
  | _ => none

end Value
end Understudy
