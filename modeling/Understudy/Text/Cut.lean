/-! Cutting a text at an occurrence of a separator, and bringing it to a width. -/

set_option autoImplicit false

namespace Understudy.Text

def cutFirst (separator : List Char) : List Char → Option (List Char × List Char)
  | [] => none
  | c :: rest =>
    if separator.isPrefixOf (c :: rest) then some ([], (c :: rest).drop separator.length)
    else (cutFirst separator rest).map fun (before, after) => (c :: before, after)

def cutLast (separator : List Char) : List Char → Option (List Char × List Char)
  | [] => none
  | c :: rest =>
    match cutLast separator rest with
    | some (before, after) => some (c :: before, after)
    | none =>
      if separator.isPrefixOf (c :: rest) then some ([], (c :: rest).drop separator.length)
      else none

private theorem eq_append_of_isPrefixOf {separator s : List Char}
    (h : separator.isPrefixOf s = true) : s = separator ++ s.drop separator.length := by
  obtain ⟨rest, rfl⟩ := List.isPrefixOf_iff_prefix.1 h
  simp

theorem cutFirst_append {separator s before after : List Char}
    (h : cutFirst separator s = some (before, after)) : s = before ++ separator ++ after := by
  induction s generalizing before with
  | nil => simp [cutFirst] at h
  | cons c rest ih =>
    rw [cutFirst] at h
    split at h
    · next found =>
      simp only [Option.some.injEq, Prod.mk.injEq] at h
      obtain ⟨rfl, rfl⟩ := h
      simpa using eq_append_of_isPrefixOf found
    · simp only [Option.map_eq_some_iff, Prod.exists, Prod.mk.injEq] at h
      obtain ⟨a, b, cut, rfl, rfl⟩ := h
      simp [ih cut]

theorem cutLast_append {separator s before after : List Char}
    (h : cutLast separator s = some (before, after)) : s = before ++ separator ++ after := by
  induction s generalizing before with
  | nil => simp [cutLast] at h
  | cons c rest ih =>
    rw [cutLast] at h
    split at h
    · next a b cut =>
      simp only [Option.some.injEq, Prod.mk.injEq] at h
      obtain ⟨rfl, rfl⟩ := h
      simp [ih cut]
    · split at h
      · next found =>
        simp only [Option.some.injEq, Prod.mk.injEq] at h
        obtain ⟨rfl, rfl⟩ := h
        simpa using eq_append_of_isPrefixOf found
      · simp at h

theorem cutLast_append_left {separator s before after : List Char} (lead : List Char)
    (cut : cutLast separator s = some (before, after)) :
    cutLast separator (lead ++ s) = some (lead ++ before, after) := by
  induction lead with
  | nil => exact cut
  | cons c rest ih =>
    rw [List.cons_append, cutLast, ih]
    rfl

/-- The pieces between the occurrences of one character; at least one piece. -/
def pieces (mark : Char) : List Char → List (List Char)
  | [] => [[]]
  | c :: rest =>
    match pieces mark rest with
    | [] => [[c]]
    | piece :: more => if c == mark then [] :: piece :: more else (c :: piece) :: more

def pad (left right : Nat) (fill : Char) (s : List Char) : List Char :=
  List.replicate left fill ++ s ++ List.replicate right fill

def alignLeft (width : Nat) (fill : Char) (s : List Char) : List Char :=
  pad 0 (width - s.length) fill s

def alignRight (width : Nat) (fill : Char) (s : List Char) : List Char :=
  pad (width - s.length) 0 fill s

/-- Put a text in the middle. An odd remainder goes to the left if the width is odd. -/
def alignCenter (width : Nat) (fill : Char) (s : List Char) : List Char :=
  let free := width - s.length
  let left := free / 2 + free % 2 * (width % 2)
  pad left (free - left) fill s

def fillZeros (width : Nat) (s : List Char) : List Char :=
  match s with
  | c :: digits =>
    if c == '+' || c == '-' then c :: alignRight (width - 1) '0' digits
    else alignRight width '0' s
  | [] => alignRight width '0' s

/-- Tabs become blanks up to the next stop; a stop without width drops them. -/
def expandTabs (stop : Nat) : Nat → List Char → List Char
  | _, [] => []
  | column, c :: rest =>
    if c == '\t' then
      let blanks := if stop = 0 then 0 else stop - column % stop
      List.replicate blanks ' ' ++ expandTabs stop (column + blanks) rest
    else c :: expandTabs stop (if c == '\n' || c == '\r' then 0 else column + 1) rest

end Understudy.Text
