import Understudy.Files.Path

/-! The names that paths end in.

An ending without a slash that a path is written with stays the ending of its name, whatever is
written before it. So paths written with different endings have different names.
-/

set_option autoImplicit false

namespace Understudy

namespace Text

theorem pieces_of_notMem {mark : Char} {s : List Char} (absent : mark ∉ s) :
    pieces mark s = [s] := by
  induction s with
  | nil => rfl
  | cons c rest ih =>
    simp only [List.mem_cons, not_or] at absent
    simp [pieces, ih absent.2, Ne.symm absent.1]

theorem pieces_append {mark : Char} (s : List Char) {ending : List Char} (absent : mark ∉ ending) :
    ∃ others last, pieces mark (s ++ ending) = others ++ [last ++ ending] := by
  induction s with
  | nil => exact ⟨[], [], pieces_of_notMem absent⟩
  | cons c rest ih =>
    obtain ⟨others, last, cut⟩ := ih
    rw [List.cons_append, pieces, cut]
    cases others with
    | nil =>
      by_cases isMark : c == mark
      · exact ⟨[[]], last, by simp [isMark]⟩
      · exact ⟨[], c :: last, by simp [isMark]⟩
    | cons first others =>
      by_cases isMark : c == mark
      · exact ⟨[] :: first :: others, last, by simp [isMark]⟩
      · exact ⟨(c :: first) :: others, last, by simp [isMark]⟩

end Text

namespace Path

variable {base path other : Path} {ending different : String}

def EndsWith (path : Path) (ending : String) : Prop := ∃ lead, path.name = lead ++ ending

/-- Whether a path ends in the name of a file, not in a step upwards or nowhere. -/
def IsProper (path : Path) : Prop := path.name ≠ "" ∧ path.name ≠ ".."

theorem endsWith_ofString (s : String) (slashless : '/' ∉ ending.toList)
    (long : 1 < ending.toList.length) : (ofString (s ++ ending)).EndsWith ending := by
  obtain ⟨others, last, cut⟩ := Text.pieces_append s.toList slashless
  have kept : isPart (last ++ ending.toList) = true := by
    unfold isPart
    cases whole : last ++ ending.toList with
    | nil => simp_all
    | cons c rest =>
      -- a single character would be no more than the ending has
      have lengths := congrArg List.length whole
      cases rest with
      | nil =>
        simp only [List.length_append, List.length_singleton] at lengths
        omega
      | cons => simp
  refine ⟨String.ofList last, ?_⟩
  rw [name, ofString, String.toList_append, cut]
  simp [List.filter_append, kept, String.ofList_append]

theorem EndsWith.name_ne (ends : path.EndsWith ending) {name : String}
    (short : name.toList.length < ending.toList.length) : path.name ≠ name := by
  obtain ⟨lead, same⟩ := ends
  rintro rfl
  rw [same, String.toList_append, List.length_append] at short
  omega

theorem EndsWith.isProper (ends : path.EndsWith ending) (long : 2 < ending.toList.length) :
    path.IsProper :=
  ⟨ends.name_ne (Nat.lt_trans (by decide) long), ends.name_ne (Nat.lt_of_le_of_lt (by decide) long)⟩

theorem EndsWith.name_ne_name (ends : path.EndsWith ending) (otherEnds : other.EndsWith different)
    {c d : Char} (last : ending.toList.getLast? = some c)
    (otherLast : different.toList.getLast? = some d) (differ : c ≠ d) : path.name ≠ other.name := by
  obtain ⟨lead, same⟩ := ends
  obtain ⟨otherLead, otherSame⟩ := otherEnds
  intro equal
  rw [same, otherSame] at equal
  have lasts := congrArg (fun s : String => s.toList.getLast?) equal
  simp only [String.toList_append, List.getLast?_append, last, otherLast, Option.some_or,
    Option.some.injEq] at lasts
  exact differ lasts

theorem name_append (named : path.name ≠ "") : (base.append path).name = path.name := by
  unfold append
  split
  · cases last : path.parts.getLast? with
    | none => exact absurd (by rw [name, last]; rfl) named
    | some name => simp [Path.name, List.getLast?_append, last]
  · rfl

theorem EndsWith.append (ends : path.EndsWith ending) (long : 0 < ending.toList.length) :
    (base.append path).EndsWith ending := by
  have named : path.name ≠ "" := ends.name_ne long
  obtain ⟨lead, same⟩ := ends
  exact ⟨lead, (name_append named).trans same⟩

theorem text_ne_empty (named : path.name ≠ "") : path.text ≠ "" := by
  have joined : ∀ parts : List String, parts.getLast?.getD "" ≠ "" → "/".intercalate parts ≠ "" := by
    intro parts
    induction parts with
    | nil => exact id
    | cons part rest _ =>
      cases rest with
      | nil => simp
      | cons second others =>
        intro _ none
        rw [String.intercalate_cons_cons] at none
        exact absurd (String.append_eq_empty_iff.mp (String.append_eq_empty_iff.mp none).1).2 (by decide)
  unfold text
  split
  · decide
  · exact fun none => joined path.parts named (String.append_eq_empty_iff.mp none).2

end Path
end Understudy
