import Understudy.Files.Document
import Understudy.Proofs.Outcome

/-! Objects that have each key once.

Entries are told by their keys and by what is found under them. Main statement: objects that are
read from a document have each key once, since a key that comes again takes over its entry.
-/

set_option autoImplicit false

namespace Understudy

namespace Assoc

variable {α : Type} {entries others : Assoc α} {key : String} {value : α}

theorem get?_cons_ne {first : String} (apart : first ≠ key) :
    get? ((first, value) :: entries) key = entries.get? key := if_neg apart

theorem get?_eq_none : entries.get? key = none ↔ key ∉ entries.keys := by
  rw [mem_keys, has, Option.not_isSome_iff_eq_none]

theorem ext_of_keys (distinct : entries.keys.Nodup) (same : entries.keys = others.keys)
    (values : ∀ key, entries.get? key = others.get? key) : entries = others := by
  induction entries generalizing others with
  | nil => exact (List.map_eq_nil_iff.mp same.symm).symm
  | cons e rest ih =>
    cases others with
    | nil => cases same
    | cons o others =>
      obtain ⟨key, value⟩ := e
      obtain ⟨key', value'⟩ := o
      obtain ⟨rfl, later⟩ := List.cons.inj same
      obtain ⟨fresh, distinct⟩ := List.nodup_cons.mp distinct
      have first : some value = some value' := by simpa [get?] using values key
      obtain rfl := Option.some.inj first
      refine congrArg _ (ih distinct later fun other => ?_)
      by_cases here : key = other
      · subst here
        have also : key ∉ keys others := by
          rwa [Assoc.keys, ← later]
        rw [get?_eq_none.mpr fresh, get?_eq_none.mpr also]
      · simpa [get?, here] using values other

end Assoc

namespace Value

def isObject : Value → Bool
  | .object _ => true
  | _ => false

theorem sizeOf_lt_of_get? {entries : Entries} {key : String} {v : Value}
    (found : entries.get? key = some v) : sizeOf v < sizeOf entries := by
  induction entries with
  | nil => cases found
  | cons e rest ih =>
    obtain ⟨first, value⟩ := e
    unfold Assoc.get? at found
    split at found
    next =>
      cases found
      simp
      omega
    next =>
      have smaller := ih found
      simp
      omega

theorem induction_on_object {P : Value → Prop} (plain : ∀ v, v.isObject = false → P v)
    (object : ∀ entries : Entries, (∀ key v, entries.get? key = some v → P v) →
      P (.object entries)) (v : Value) : P v := by
  match v with
  | .object entries =>
    refine object entries fun key w found => ?_
    have smaller := sizeOf_lt_of_get? found
    exact induction_on_object plain object w
  | .null | .bool _ | .int _ | .real _ | .text _ | .list _ => exact plain _ rfl
termination_by sizeOf v

mutual

/-- Whether every object to which only objects lead has each of its keys once. -/
def keysOnce : Value → Bool
  | .object entries => keysOnceIn entries
  | _ => true

def keysOnceIn : List (String × Value) → Bool
  | [] => true
  | (key, v) :: rest => !Assoc.has rest key && v.keysOnce && keysOnceIn rest

end

variable {entries : Entries} {key : String} {v : Value}

theorem keysOnceIn_iff : keysOnceIn entries = true ↔
    entries.keys.Nodup ∧ ∀ key v, entries.get? key = some v → v.keysOnce = true := by
  induction entries with
  | nil => simp [keysOnceIn, Assoc.keys]
  | cons e rest ih =>
    obtain ⟨first, value⟩ := e
    have fresh : Assoc.has rest first = false ↔ first ∉ Assoc.keys rest := by
      rw [Assoc.mem_keys, Bool.not_eq_true]
    simp only [keysOnceIn, Bool.and_eq_true, Bool.not_eq_true', fresh, ih]
    rw [show Assoc.keys ((first, value) :: rest) = first :: Assoc.keys rest from rfl,
      List.nodup_cons]
    constructor
    · rintro ⟨⟨new, here⟩, distinct, later⟩
      refine ⟨⟨new, distinct⟩, fun key v found => ?_⟩
      unfold Assoc.get? at found
      split at found
      next => exact Option.some.inj found ▸ here
      next => exact later key v found
    · rintro ⟨⟨new, distinct⟩, each⟩
      refine ⟨⟨new, each first value (if_pos rfl)⟩, distinct, fun key v found => ?_⟩
      have apart : first ≠ key := by
        rintro rfl
        rw [Assoc.get?_eq_none.mpr new] at found
        cases found
      exact each key v (by rw [Assoc.get?_cons_ne apart, found])

theorem keysOnceIn_set (key : String) (once : keysOnceIn entries = true) (inner : v.keysOnce = true) :
    keysOnceIn (entries.set key v) = true := by
  rw [keysOnceIn_iff] at once ⊢
  refine ⟨Assoc.nodup_keys_set once.1, fun other w found => ?_⟩
  rcases Assoc.get?_set_cases found with ⟨_, rfl⟩ | known
  · exact inner
  · exact once.2 other w known

theorem keysOnce_of_isObject (plain : v.isObject = false) : v.keysOnce = true := by
  cases v with
  | object => cases plain
  | _ => rfl

/-! ## Documents -/

theorem isObject_of_readLiteral? {s rest : List Char} (read : readLiteral? s = some (v, rest)) :
    v.isObject = false := by
  obtain ⟨⟨word, value⟩, listed, found⟩ := List.exists_of_findSome?_eq_some read
  have plain : ∀ literal ∈ literals, literal.2.isObject = false := by decide +kernel
  have same := plain _ listed
  dsimp only at found same
  split at found
  next => exact (Prod.mk.inj (Option.some.inj found)).1 ▸ same
  next => cases found

theorem isObject_of_readNumber {s rest : List Char} (read : readNumber s = .ok (v, rest)) :
    v.isObject = false := by
  unfold readNumber at read
  dsimp only at read
  -- The sign decides only what follows it, so both cases go the same way.
  split at read
  all_goals
    split at read
    next => cases read
    next =>
      split at read
      next =>
        split at read
        next => cases read
        next =>
          cases read
          rfl
      next =>
        cases read
        rfl

theorem keysOnce_of_read (fuel : Nat) :
    (∀ s v rest, readValue fuel s = .ok (v, rest) → v.keysOnce = true) ∧
      (∀ seen s v rest, readItems fuel seen s = .ok (v, rest) → v.keysOnce = true) ∧
        ∀ seen s v rest, keysOnceIn seen = true → readEntries fuel seen s = .ok (v, rest) →
          v.keysOnce = true := by
  -- Values, items and entries call each other, so one induction goes over all three. Entries that
  -- have been read have each key once, and a further one is set among them.
  induction fuel with
  | zero => exact ⟨nofun, nofun, nofun⟩
  | succ fuel ih =>
    obtain ⟨values, items, entries⟩ := ih
    refine ⟨fun s v rest read => ?_, fun seen s v rest read => ?_,
      fun seen s v rest once read => ?_⟩
    · unfold readValue at read
      split at read
      next =>
        obtain ⟨⟨chars, later⟩, _, made⟩ := exists_of_bind_eq_ok read
        cases made
        rfl
      next =>
        split at read
        next =>
          cases read
          rfl
        next => exact entries [] _ v rest rfl read
      next =>
        split at read
        next =>
          cases read
          rfl
        next => exact items [] _ v rest read
      next =>
        split at read
        next found literal =>
          cases read
          exact keysOnce_of_isObject (isObject_of_readLiteral? literal)
        next => exact keysOnce_of_isObject (isObject_of_readNumber read)
    · unfold readItems at read
      obtain ⟨⟨item, later⟩, _, read⟩ := exists_of_bind_eq_ok read
      dsimp only at read
      split at read
      next =>
        cases read
        rfl
      next => exact items _ _ v rest read
      next => cases read
    · unfold readEntries at read
      split at read
      next =>
        obtain ⟨⟨key, later⟩, _, read⟩ := exists_of_bind_eq_ok read
        dsimp only at read
        split at read
        next =>
          obtain ⟨⟨value, later⟩, inner, read⟩ := exists_of_bind_eq_ok read
          dsimp only at read
          have grown := keysOnceIn_set (String.ofList key) once (values _ _ _ inner)
          split at read
          next =>
            cases read
            exact grown
          next => exact entries _ _ v rest grown read
          next => cases read
        next => cases read
      next => cases read

theorem keysOnce_of_readDocument {tree : FileTree} {path : Path}
    (read : tree.readDocument path = .ok v) : v.keysOnce = true := by
  obtain ⟨bytes, _, read⟩ := exists_of_bind_eq_ok read
  obtain ⟨chars, _, read⟩ := exists_of_bind_eq_ok read
  rw [mapError_eq_ok] at read
  unfold ofJson at read
  split at read
  next value whole =>
    cases read
    unfold readAll at whole
    split at whole
    next => cases whole
    next =>
      obtain ⟨⟨value, rest⟩, inner, ended⟩ := exists_of_bind_eq_ok whole
      dsimp only at ended
      split at ended
      next =>
        cases ended
        exact (keysOnce_of_read _).1 _ _ _ inner
      next => cases ended
  next => cases read

end Value
end Understudy
