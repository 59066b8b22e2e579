import Understudy.Value.Reader
import Understudy.Value.Writer

/-! Documents tell what they were written for.

A string is read back as it was written, so its text is told from whatever follows it. Main
statement: the indented document of a value without numbers determines that value.
-/

set_option autoImplicit false

namespace Understudy

/-! ## Four hexadecimal digits -/

theorem Text.hexDigits_four {n : Nat} (small : n < 0x10000) :
    hexDigits 4 n = [Nat.digitChar (n / 4096), Nat.digitChar (n / 256 % 16),
      Nat.digitChar (n / 16 % 16), Nat.digitChar (n % 16)] := by
  have step {m : Nat} (large : ¬ m < 16) :
      Nat.toDigits 16 m = Nat.toDigits 16 (m / 16) ++ [Nat.digitChar (m % 16)] := by
    rw [Nat.toDigits_eq_if (by decide), if_neg large]
  have last {m : Nat} (digit : m < 16) : Nat.toDigits 16 m = [Nat.digitChar m] :=
    Nat.toDigits_of_lt_base digit
  unfold hexDigits
  -- The number has one to four digits of its own, and zeros stand for the others.
  by_cases one : n < 16
  · have first : n / 4096 = 0 := by omega
    have second : n / 256 = 0 := by omega
    have third : n / 16 = 0 := by omega
    have fourth : n % 16 = n := by omega
    rw [last one, first, second, third, fourth]
    rfl
  by_cases two : n / 16 < 16
  · have first : n / 4096 = 0 := by omega
    have second : n / 256 = 0 := by omega
    have third : n / 16 % 16 = n / 16 := by omega
    rw [step one, last two, first, second, third]
    rfl
  by_cases three : n / 16 / 16 < 16
  · have first : n / 4096 = 0 := by omega
    have second : n / 256 % 16 = n / 16 / 16 := by omega
    rw [step one, step two, last three, first, second]
    rfl
  · have first : n / 4096 = n / 16 / 16 / 16 := by omega
    have second : n / 256 % 16 = n / 16 / 16 % 16 := by omega
    rw [step one, step two, step three, last (by omega), first, second]
    rfl

namespace Value

theorem hexValue?_digitChar : ∀ d < 16, hexValue? (Nat.digitChar d) = some d := by decide

theorem hex4?_digits {n : Nat} (small : n < 0x10000) :
    hex4? (Nat.digitChar (n / 4096)) (Nat.digitChar (n / 256 % 16)) (Nat.digitChar (n / 16 % 16))
      (Nat.digitChar (n % 16)) = some n := by
  unfold hex4?
  rw [hexValue?_digitChar _ (by omega), hexValue?_digitChar _ (by omega),
    hexValue?_digitChar _ (by omega), hexValue?_digitChar _ (by omega)]
  simp only [Option.bind_eq_bind, Option.bind_some, Option.pure_def, Option.some.injEq]
  omega

/-! ## Strings -/

variable {c : Char} {rest : List Char}

theorem readString_unit (opening : List Char) (seen : List Nat) {n : Nat} (small : n < 0x10000)
    (more : rest ≠ []) :
    readString opening seen ('\\' :: 'u' :: Text.hexDigits 4 n ++ rest) =
      readString opening (n :: seen) rest := by
  have open_ : rest.isEmpty = false := by simpa using more
  rw [Text.hexDigits_four small]
  simp only [List.cons_append, List.nil_append]
  rw [readString]
  simp only [open_, hex4?_digits small]

theorem readString_escape (opening : List Char) (seen : List Nat) {letter : Char}
    (known : escapes.lookup letter = some c) :
    readString opening seen ('\\' :: letter :: rest) =
      readString opening (c.toNat :: seen) rest := by
  have apart : letter ≠ 'u' := by
    rintro rfl
    cases known
  rw [readString]
  · simp only [known]
    rw [if_neg (by simpa using apart)]
  · rintro a b d e rest' ⟨⟩
    exact absurd rfl apart

theorem readString_plain (opening : List Char) (seen : List Nat) (quote : c ≠ '"')
    (slash : c ≠ '\\') (visible : 0x20 ≤ c.toNat) :
    readString opening seen (c :: rest) = readString opening (c.toNat :: seen) rest := by
  rw [readString]
  · rw [if_neg (by omega)]
  · exact quote
  · exact fun same _ => slash same
  · exact fun _ _ _ _ _ same _ => slash same
  · exact fun _ _ same _ => slash same

theorem toNat_valid (c : Char) :
    c.toNat < 0xD800 ∨ 0xDFFF < c.toNat ∧ c.toNat < 0x110000 := by
  have valid := c.valid
  simp only [UInt32.isValidChar, Nat.isValidChar] at valid
  exact valid

theorem units16_lt (c : Char) : ∀ unit ∈ units16 c, unit < 0x10000 := by
  have valid := toNat_valid c
  intro unit member
  unfold units16 at member
  dsimp only at member
  split at member
  next small => rwa [List.mem_singleton.mp member]
  next =>
    rw [List.mem_cons, List.mem_singleton] at member
    omega

theorem readString_units (opening : List Char) (seen : List Nat) {units : List Nat}
    (small : ∀ unit ∈ units, unit < 0x10000) (more : rest ≠ []) :
    readString opening seen
        (units.flatMap (fun unit => '\\' :: 'u' :: Text.hexDigits 4 unit) ++ rest) =
      readString opening (units.reverse ++ seen) rest := by
  induction units generalizing seen with
  | nil => rfl
  | cons unit units ih =>
    obtain ⟨first, others⟩ := List.forall_mem_cons.mp small
    rw [List.flatMap_cons, List.append_assoc, readString_unit opening seen first (by simp [more]),
      ih _ others, List.reverse_cons, List.append_assoc, List.singleton_append]

theorem readString_jsonChar (opening : List Char) (seen : List Nat) (c : Char)
    (more : rest ≠ []) :
    readString opening seen (jsonChar c ++ rest) =
      readString opening ((units16 c).reverse ++ seen) rest := by
  have escaped {letter e : Char} (same : (c == e) = true) (known : escapes.lookup letter = some e)
      (small : e.toNat < 0x10000) :
      readString opening seen (['\\', letter] ++ rest) =
        readString opening ((units16 c).reverse ++ seen) rest := by
    obtain rfl := beq_iff_eq.mp same
    rw [units16, if_pos small]
    exact readString_escape opening seen known
  unfold jsonChar
  split
  next same => exact escaped same rfl (by decide)
  next quote =>
  split
  next same => exact escaped same rfl (by decide)
  next slash =>
  split
  next same => exact escaped same rfl (by decide)
  split
  next same => exact escaped same rfl (by decide)
  split
  next same => exact escaped same rfl (by decide)
  split
  next same => exact escaped same rfl (by decide)
  split
  next same => exact escaped same rfl (by decide)
  split
  next visible =>
    rw [Bool.and_eq_true, decide_eq_true_eq, decide_eq_true_eq] at visible
    rw [units16, if_pos (by omega)]
    exact readString_plain opening seen (by simpa using quote) (by simpa using slash) visible.1
  next => exact readString_units opening seen (units16_lt c) more

theorem readString_body (opening : List Char) (seen : List Nat) (s rest : List Char) :
    readString opening seen (s.flatMap jsonChar ++ '"' :: rest) =
      .ok (joinUnits (seen.reverse ++ s.flatMap units16), rest) := by
  induction s generalizing seen with
  | nil => rw [List.flatMap_nil, List.nil_append, readString, List.flatMap_nil, List.append_nil]
  | cons c s ih =>
    rw [List.flatMap_cons, List.append_assoc, readString_jsonChar opening seen c (by simp), ih]
    simp

theorem joinUnits_cons {unit : Nat} (whole : isHighHalf unit = false) (units : List Nat) :
    joinUnits (unit :: units) = unitChar unit :: joinUnits units := by
  cases units with
  | nil => rfl
  | cons next units => simp [joinUnits, whole]

/-- The code units of a text make up the text. -/
theorem joinUnits_units16 (s : List Char) : joinUnits (s.flatMap units16) = s := by
  induction s with
  | nil => rfl
  | cons c s ih =>
    have valid := toNat_valid c
    rw [List.flatMap_cons, units16]
    split
    next small =>
      have whole : isHighHalf c.toNat = false ∧ isLowHalf c.toNat = false := by
        simp only [isHighHalf, isLowHalf, Bool.and_eq_false_iff, decide_eq_false_iff_not]
        omega
      rw [List.singleton_append, joinUnits_cons whole.1, ih, unitChar, whole.1, whole.2]
      simp
    next large =>
      have high : isHighHalf (0xD800 + (c.toNat - 0x10000) / 0x400) = true := by
        simp only [isHighHalf, Bool.and_eq_true, decide_eq_true_eq]
        omega
      have low : isLowHalf (0xDC00 + (c.toNat - 0x10000) % 0x400) = true := by
        simp only [isLowHalf, Bool.and_eq_true, decide_eq_true_eq]
        omega
      have joined : 0x10000 + (0xD800 + (c.toNat - 0x10000) / 0x400 - 0xD800) * 0x400 +
          (0xDC00 + (c.toNat - 0x10000) % 0x400 - 0xDC00) = c.toNat := by
        omega
      rw [List.cons_append, List.singleton_append, joinUnits, high, low, Bool.and_true,
        if_pos rfl, ih, joinHalves, joined, Char.ofNat_toNat]

/-- What a string is told by, whatever follows it: it is read back as it was written. -/
theorem jsonString_inj {s t : String} {rest others : List Char}
    (same : (jsonString s).toList ++ rest = (jsonString t).toList ++ others) :
    s = t ∧ rest = others := by
  have readBack (s : String) (rest : List Char) :
      readString [] [] (((jsonString s).toList ++ rest).drop 1) = .ok (s.toList, rest) := by
    have read := readString_body [] [] s.toList rest
    rw [List.reverse_nil, List.nil_append, joinUnits_units16] at read
    rw [← read, jsonString]
    simp
  have read := readBack s rest
  rw [same, readBack t others] at read
  obtain ⟨texts, rests⟩ := Prod.mk.inj (Except.ok.inj read)
  exact ⟨String.toList_injective texts.symm, rests.symm⟩

/-! ## Indented documents -/

mutual

def isWorded : Value → Bool
  | .int _ | .real _ => false
  | .list items => areWorded items
  | .object entries => haveWorded entries
  | .null | .bool _ | .text _ => true

def areWorded : List Value → Bool
  | [] => true
  | v :: rest => v.isWorded && areWorded rest

def haveWorded : List (String × Value) → Bool
  | [] => true
  | (_, v) :: rest => v.isWorded && haveWorded rest

end

theorem areWorded_iff {vs : List Value} : areWorded vs = true ↔ ∀ v ∈ vs, v.isWorded = true := by
  induction vs with
  | nil => simp [areWorded]
  | cons v vs ih => rw [areWorded, Bool.and_eq_true, ih, List.forall_mem_cons]

def sortOf (c : Char) : Nat :=
  if c = 'n' then 0 else if c = 't' ∨ c = 'f' then 1 else if c = '"' then 2
  else if c = '[' then 3 else 4

def sort : Value → Nat
  | .null => 0
  | .bool _ => 1
  | .text _ => 2
  | .list _ => 3
  | .object _ => 4
  | .int _ | .real _ => 5

theorem head?_indented (depth : Nat) {v : Value} (worded : v.isWorded = true) (rest : List Char) :
    ((v.indented depth).toList ++ rest).head?.map sortOf = some v.sort := by
  cases v with
  | null => simp [indented, sortOf, sort]
  | bool b => cases b <;> simp [indented, sortOf, sort]
  | int n => simp [isWorded] at worded
  | real x => simp [isWorded] at worded
  | text s => simp [indented, jsonString, sortOf, sort]
  | list items => cases items <;> simp [indented, sortOf, sort]
  | object entries => cases entries <;> simp [indented, sortOf, sort]

theorem sort_eq {depth : Nat} {v w : Value} (worded : v.isWorded = true)
    (other : w.isWorded = true) {rest others : List Char}
    (same : (v.indented depth).toList ++ rest = (w.indented depth).toList ++ others) :
    v.sort = w.sort := by
  have first := head?_indented depth worded rest
  rw [same, head?_indented depth other] at first
  exact (Option.some.inj first).symm

section

variable {w : Value}

theorem eq_null_of_sort (sorts : w.sort = 0) : w = .null := by
  cases w <;> first | rfl | cases sorts

theorem eq_bool_of_sort (sorts : w.sort = 1) : ∃ b, w = .bool b := by
  cases w <;> first | exact ⟨_, rfl⟩ | cases sorts

theorem eq_text_of_sort (sorts : w.sort = 2) : ∃ s, w = .text s := by
  cases w <;> first | exact ⟨_, rfl⟩ | cases sorts

theorem eq_list_of_sort (sorts : w.sort = 3) : ∃ items, w = .list items := by
  cases w <;> first | exact ⟨_, rfl⟩ | cases sorts

theorem eq_object_of_sort (sorts : w.sort = 4) : ∃ entries, w = .object entries := by
  cases w <;> first | exact ⟨_, rfl⟩ | cases sorts

end

theorem toList_jsonBreak (depth : Nat) :
    (jsonBreak depth).toList = '\n' :: List.replicate (2 * depth) ' ' := by
  simp [jsonBreak]

mutual

theorem indented_inj {depth : Nat} {v w : Value} (worded : v.isWorded = true)
    (other : w.isWorded = true) {rest others : List Char}
    (same : (v.indented depth).toList ++ rest = (w.indented depth).toList ++ others) :
    v = w ∧ rest = others := by
  -- The first character decides the sort, so that only values of one sort are left to compare.
  have sorts := (sort_eq worded other same).symm
  cases v with
  | int n => cases worded
  | real x => cases worded
  | null =>
    obtain rfl := eq_null_of_sort sorts
    exact ⟨rfl, List.append_cancel_left same⟩
  | bool a =>
    obtain ⟨b, rfl⟩ := eq_bool_of_sort sorts
    cases a <;> cases b <;> simp_all [indented]
  | text s =>
    obtain ⟨t, rfl⟩ := eq_text_of_sort sorts
    rw [indented, indented] at same
    obtain ⟨texts, rests⟩ := jsonString_inj same
    exact ⟨congrArg _ texts, rests⟩
  | list items =>
    obtain ⟨more, rfl⟩ := eq_list_of_sort sorts
    rw [isWorded] at worded other
    cases items with
    | nil =>
      cases more with
      | nil => exact ⟨rfl, List.append_cancel_left same⟩
      | cons w more => simp [indented, toList_jsonBreak] at same
    | cons v items =>
      cases more with
      | nil => simp [indented, toList_jsonBreak] at same
      | cons w more =>
        rw [areWorded, Bool.and_eq_true] at worded other
        simp only [indented, String.toList_append, List.append_assoc,
          List.append_cancel_left_eq] at same
        obtain ⟨rfl, after⟩ := indented_inj worded.1 other.1 same
        simp only [toList_jsonBreak, List.cons_append] at after
        obtain ⟨rfl, rests⟩ := indentedItems_inj worded.2 other.2 after
        simp only [List.append_cancel_left_eq] at rests
        exact ⟨rfl, rests⟩
  | object entries =>
    obtain ⟨more, rfl⟩ := eq_object_of_sort sorts
    rw [isWorded] at worded other
    cases entries with
    | nil =>
      cases more with
      | nil => exact ⟨rfl, List.append_cancel_left same⟩
      | cons f more => simp [indented, toList_jsonBreak] at same
    | cons e entries =>
      cases more with
      | nil => simp [indented, toList_jsonBreak] at same
      | cons f more =>
        obtain ⟨key, v⟩ := e
        obtain ⟨label, w⟩ := f
        rw [haveWorded, Bool.and_eq_true] at worded other
        simp only [indented, String.toList_append, List.append_assoc,
          List.append_cancel_left_eq] at same
        obtain ⟨rfl, value⟩ := jsonString_inj same
        obtain ⟨rfl, after⟩ := indented_inj worded.1 other.1 (List.append_cancel_left value)
        simp only [toList_jsonBreak, List.cons_append] at after
        obtain ⟨rfl, rests⟩ := indentedEntries_inj worded.2 other.2 after
        simp only [List.append_cancel_left_eq] at rests
        exact ⟨rfl, rests⟩

theorem indentedItems_inj {depth : Nat} {items more : List Value}
    (worded : areWorded items = true) (other : areWorded more = true) {rest others : List Char}
    (same : (indentedItems depth items).toList ++ '\n' :: rest =
      (indentedItems depth more).toList ++ '\n' :: others) : items = more ∧ rest = others := by
  cases items with
  | nil =>
    cases more with
    | nil => exact ⟨rfl, (List.cons.inj same).2⟩
    | cons w more => simp [indentedItems] at same
  | cons v items =>
    cases more with
    | nil => simp [indentedItems] at same
    | cons w more =>
      rw [areWorded, Bool.and_eq_true] at worded other
      simp only [indentedItems, String.toList_append, List.append_assoc,
        List.append_cancel_left_eq] at same
      obtain ⟨rfl, after⟩ := indented_inj worded.1 other.1 same
      obtain ⟨rfl, rests⟩ := indentedItems_inj worded.2 other.2 after
      exact ⟨rfl, rests⟩

theorem indentedEntries_inj {depth : Nat} {entries more : List (String × Value)}
    (worded : haveWorded entries = true) (other : haveWorded more = true)
    {rest others : List Char}
    (same : (indentedEntries depth entries).toList ++ '\n' :: rest =
      (indentedEntries depth more).toList ++ '\n' :: others) :
    entries = more ∧ rest = others := by
  cases entries with
  | nil =>
    cases more with
    | nil => exact ⟨rfl, (List.cons.inj same).2⟩
    | cons f more => simp [indentedEntries] at same
  | cons e entries =>
    cases more with
    | nil => simp [indentedEntries] at same
    | cons f more =>
      obtain ⟨key, v⟩ := e
      obtain ⟨label, w⟩ := f
      rw [haveWorded, Bool.and_eq_true] at worded other
      simp only [indentedEntries, String.toList_append, List.append_assoc,
        List.append_cancel_left_eq] at same
      obtain ⟨rfl, value⟩ := jsonString_inj same
      obtain ⟨rfl, after⟩ := indented_inj worded.1 other.1 (List.append_cancel_left value)
      obtain ⟨rfl, rests⟩ := indentedEntries_inj worded.2 other.2 after
      exact ⟨rfl, rests⟩

end

theorem eq_of_indented_eq {depth : Nat} {v w : Value} (worded : v.isWorded = true)
    (other : w.isWorded = true) (same : v.indented depth = w.indented depth) : v = w := by
  have ended : (v.indented depth).toList ++ [] = (w.indented depth).toList ++ [] := by rw [same]
  exact (indented_inj worded other ended).1

end Value
end Understudy
