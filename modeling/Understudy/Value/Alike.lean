import Understudy.Value.Basic

/-! Values that count as one.

Numbers are compared by what they are worth, whatever their kind: a truth value is worth zero or
one, and a real without a fraction is worth an integer. The order of the entries of an object
says nothing. Every value has a canonical form, and values are alike if they share it.
-/

set_option autoImplicit false

namespace Understudy

namespace Binary64

def integer? : Binary64 → Option Int
  | .finite negative m e =>
    let signed (n : Nat) : Int := if negative then -(n : Int) else n
    if 0 ≤ e then some (signed (m * Nat.pow 2 e.toNat))
    else
      let unit := Nat.pow 2 (-e).toNat
      if m % unit == 0 then some (signed (m / unit)) else none
  | .infinite _ | .nan => none

end Binary64

namespace Value

def insertByKey (entry : String × Value) : Entries → Entries
  | [] => [entry]
  | other :: rest =>
    if entry.1 < other.1 then entry :: other :: rest else other :: insertByKey entry rest

mutual

/-- The form that all values share that count as one. -/
def canon : Value → Value
  | .null => .null
  | .bool b => .int (if b then 1 else 0)
  | .int n => .int n
  | .real x => (x.integer?.map Value.int).getD (.real x)
  | .text s => .text s
  | .list items => .list (canonItems items)
  | .object entries => .object (canonEntries entries)

def canonItems : List Value → List Value
  | [] => []
  | v :: rest => v.canon :: canonItems rest

def canonEntries : List (String × Value) → List (String × Value)
  | [] => []
  | (key, v) :: rest => insertByKey (key, v.canon) (canonEntries rest)

end

def alike (a b : Value) : Bool := a.canon == b.canon

theorem alike_iff {a b : Value} : alike a b = true ↔ a.canon = b.canon := by simp [alike]

@[simp] theorem alike_refl (a : Value) : alike a a = true := by simp [alike]

theorem alike_comm (a b : Value) : alike a b = alike b a := by
  rw [Bool.eq_iff_iff, alike_iff, alike_iff, eq_comm]

theorem alike_trans {a b c : Value} (h : alike a b = true) (h' : alike b c = true) :
    alike a c = true := alike_iff.2 ((alike_iff.1 h).trans (alike_iff.1 h'))

@[simp] theorem alike_text (s t : String) : alike (.text s) (.text t) = true ↔ s = t := by
  simp [alike_iff, canon]

theorem eq_text_of_alike {v : Value} {s : String} (h : alike v (.text s) = true) :
    v = .text s := by
  rw [alike_iff, canon] at h
  cases v with
  | text t => simpa [canon] using h
  | real x => cases hx : x.integer? <;> simp [canon, hx] at h
  | null => simp [canon] at h
  | bool b => simp [canon] at h
  | int n => simp [canon] at h
  | list items => simp [canon] at h
  | object entries => simp [canon] at h

/-- Whether two values are equal: alike, and not the number that is none, which equals nothing. -/
def equal (a b : Value) : Bool := alike a b && a != .real .nan

def distinct : List Value → List Value
  | [] => []
  | v :: rest => v :: (distinct rest).filter fun w => !alike v w

/-- A value that can be looked up under: not a list and not an object. -/
def isPlain : Value → Bool
  | .list _ | .object _ => false
  | _ => true

def isText (v : Value) : Bool := v.text?.isSome

theorem exists_text_of_isText {v : Value} (worded : v.isText = true) : ∃ s, v = .text s := by
  cases v with
  | text s => exact ⟨s, rfl⟩
  | _ => cases worded

end Value
end Understudy
