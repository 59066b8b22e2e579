/-! Sets of code points as ordered, disjoint inclusive ranges, and the blanks: the characters that
separate words and are stripped from the ends of a text. -/

set_option autoImplicit false

namespace Understudy.Text

/-- Membership in an ordered list of ranges; stops at the first range above the point. -/
def inRanges : List (Nat × Nat) → Nat → Bool
  | [], _ => false
  | (lo, hi) :: rest, n => if n < lo then false else n ≤ hi || inRanges rest n

theorem inRanges_sound (table : List (Nat × Nat)) (n : Nat) (h : inRanges table n = true) :
    ∃ r ∈ table, r.1 ≤ n ∧ n ≤ r.2 := by
  induction table with
  | nil => simp [inRanges] at h
  | cons r rest ih =>
    obtain ⟨lo, hi⟩ := r
    simp only [inRanges] at h
    split at h
    · simp at h
    · simp only [Bool.or_eq_true, decide_eq_true_eq] at h
      rcases h with h | h
      · exact ⟨(lo, hi), by simp, by simp; omega, by simpa using h⟩
      · obtain ⟨r, hr, bounds⟩ := ih h
        exact ⟨r, by simp [hr], bounds⟩

/-- White space of every script, with the information separators U+001C to U+001F. -/
def blankRanges : List (Nat × Nat) :=
  [(0x9, 0xd), (0x1c, 0x20), (0x85, 0x85), (0xa0, 0xa0), (0x1680, 0x1680), (0x2000, 0x200a),
   (0x2028, 0x2029), (0x202f, 0x202f), (0x205f, 0x205f), (0x3000, 0x3000)]

def isBlank (c : Char) : Bool := inRanges blankRanges c.toNat

/-- The six blanks of a number's surroundings: tab to carriage return, and the space. -/
def isAsciiBlank (c : Char) : Bool := inRanges [(0x9, 0xd), (0x20, 0x20)] c.toNat

def trimLeft (s : List Char) : List Char := s.dropWhile isBlank

def trim (s : List Char) : List Char := (trimLeft (trimLeft s).reverse).reverse

/-- Put a finished run, kept in reverse, in front of the runs that follow it. -/
def flush (run : List Char) (later : List (List Char)) : List (List Char) :=
  if run.isEmpty then later else run.reverse :: later

def runsFrom (keep : Char → Bool) : List Char → List Char → List (List Char)
  | run, [] => flush run []
  | run, c :: rest =>
    if keep c then runsFrom keep (c :: run) rest else flush run (runsFrom keep [] rest)

/-- The maximal runs of characters that satisfy a predicate, in order. -/
def runs (keep : Char → Bool) (s : List Char) : List (List Char) := runsFrom keep [] s

theorem runsFrom_nonempty (keep : Char → Bool) (s : List Char) :
    ∀ run, ∀ r ∈ runsFrom keep run s, r ≠ [] := by
  induction s with
  | nil =>
    intro run r hr
    by_cases h : run.isEmpty <;> simp_all [runsFrom, flush]
  | cons c rest ih =>
    intro run r hr
    by_cases hc : keep c
    · exact ih _ r (by simpa [runsFrom, hc] using hr)
    · by_cases h : run.isEmpty
      · exact ih [] r (by simpa [runsFrom, hc, flush, h] using hr)
      · simp only [runsFrom, hc, flush, h, Bool.false_eq_true, if_false, List.mem_cons] at hr
        rcases hr with rfl | hr
        · simpa using h
        · exact ih [] r hr

def words (s : List Char) : List (List Char) := runs (fun c => !isBlank c) s

end Understudy.Text
