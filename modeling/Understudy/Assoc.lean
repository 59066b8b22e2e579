/-! Association lists with text keys.

A key has one entry, and entries stand in the order in which their keys first appeared.
-/

set_option autoImplicit false

namespace Understudy

abbrev Assoc (α : Type) := List (String × α)

namespace Assoc

variable {α : Type}

def get? : Assoc α → String → Option α
  | [], _ => none
  | (k, v) :: rest, key => if k = key then some v else get? rest key

/-- Set a key: an existing entry keeps its place, a new one goes last. -/
def set : Assoc α → String → α → Assoc α
  | [], key, value => [(key, value)]
  | (k, v) :: rest, key, value =>
    if k = key then (k, value) :: rest else (k, v) :: set rest key value

def has (entries : Assoc α) (key : String) : Bool := (entries.get? key).isSome

def setNew (entries : Assoc α) (key : String) (value : α) : Assoc α :=
  if entries.has key then entries else entries.set key value

def erase (entries : Assoc α) (key : String) : Assoc α := entries.filter (·.1 != key)

def keys (entries : Assoc α) : List String := entries.map (·.1)

@[simp] theorem get?_nil (key : String) : get? ([] : Assoc α) key = none := rfl

@[simp] theorem get?_set_self (entries : Assoc α) (key : String) (value : α) :
    (entries.set key value).get? key = some value := by
  induction entries with
  | nil => simp [set, get?]
  | cons e rest ih => by_cases h : e.1 = key <;> simp [set, get?, h, ih]

theorem get?_set_ne (entries : Assoc α) {key other : String} (value : α) (h : other ≠ key) :
    (entries.set key value).get? other = entries.get? other := by
  induction entries with
  | nil => simp [set, get?, Ne.symm h]
  | cons e rest ih =>
    by_cases hk : e.1 = key
    · simp [set, get?, hk, Ne.symm h]
    · simp [set, get?, hk, ih]

theorem get?_erase (entries : Assoc α) (key other : String) :
    (entries.erase key).get? other = if other = key then none else entries.get? other := by
  unfold erase
  induction entries with
  | nil => simp
  | cons e rest ih => by_cases gone : e.1 = key <;> grind [get?]

@[simp] theorem set_set (entries : Assoc α) (key : String) (first second : α) :
    (entries.set key first).set key second = entries.set key second := by
  induction entries with
  | nil => simp [set]
  | cons e rest ih => by_cases h : e.1 = key <;> simp [set, h, ih]

theorem keys_set (entries : Assoc α) (key : String) (value : α) :
    (entries.set key value).keys =
      if entries.has key then entries.keys else entries.keys ++ [key] := by
  induction entries with
  | nil => rfl
  | cons e rest ih =>
    by_cases h : e.1 = key
    · simp [set, keys, has, get?, h]
    · simp only [keys, has] at ih
      simp only [set, h, if_false, keys, List.map_cons, has, get?, ih]
      split <;> simp_all

theorem get?_set_cases {entries : Assoc α} {key other : String} {value found : α}
    (known : (entries.set key value).get? other = some found) :
    other = key ∧ found = value ∨ entries.get? other = some found := by
  by_cases same : other = key
  · subst same
    rw [get?_set_self] at known
    exact .inl ⟨rfl, (Option.some.inj known).symm⟩
  · rw [get?_set_ne _ _ same] at known
    exact .inr known

theorem mem_keys {entries : Assoc α} {key : String} :
    key ∈ entries.keys ↔ entries.has key = true := by
  unfold keys has
  induction entries with
  | nil => simp
  | cons e rest ih =>
    unfold get?
    split
    next same => simp [same]
    next apart => simpa [Ne.symm apart] using ih

theorem has_set {entries : Assoc α} {key other : String} {value : α} :
    (entries.set key value).has other = true ↔ other = key ∨ entries.has other = true := by
  unfold has
  by_cases same : other = key
  · subst same
    simp
  · rw [get?_set_ne _ _ same]
    simp [same]

theorem nodup_keys_set {entries : Assoc α} {key : String} {value : α}
    (distinct : entries.keys.Nodup) : (entries.set key value).keys.Nodup := by
  rw [keys_set]
  split
  next => exact distinct
  next new =>
    rw [← mem_keys] at new
    rw [List.nodup_append]
    refine ⟨distinct, by simp, ?_⟩
    rintro a old b last rfl
    rw [List.mem_singleton.mp last] at old
    exact new old

theorem get?_map {β : Type} (entries : Assoc α) (f : α → β) (key : String) :
    get? (entries.map fun e => (e.1, f e.2)) key = (entries.get? key).map f := by
  induction entries with
  | nil => rfl
  | cons e rest ih =>
    simp only [List.map_cons, get?, ih]
    split <;> rfl

theorem get?_map_self (keys : List String) (f : String → α) (key : String) :
    get? (keys.map fun k => (k, f k)) key = if key ∈ keys then some (f key) else none := by
  induction keys with
  | nil => rfl
  | cons k rest ih => by_cases same : k = key <;> grind [get?]

theorem map_set {β : Type} (entries : Assoc α) (f : α → β) (key : String) (value : α) :
    (entries.set key value).map (fun e => (e.1, f e.2)) =
      set (entries.map fun e => (e.1, f e.2)) key (f value) := by
  induction entries with
  | nil => rfl
  | cons e rest ih =>
    simp only [set, List.map_cons]
    split
    next => rfl
    next => rw [List.map_cons, ih]

theorem set_eq_self {entries : Assoc α} {key : String} {value : α}
    (there : entries.get? key = some value) : entries.set key value = entries := by
  induction entries with
  | nil => cases there
  | cons e rest ih =>
    unfold get? at there
    unfold set
    split at there
    next same =>
      cases there
      rw [if_pos same]
    next apart => rw [if_neg apart, ih there]

end Assoc
end Understudy
