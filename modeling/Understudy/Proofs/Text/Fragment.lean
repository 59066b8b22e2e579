import Mathlib.Data.List.DropRight
import Understudy.Text.Identifier
import Understudy.Text.Search

/-! Identifier fragments, and the ways in which texts come to them.

A fragment is made of plain characters with single underscores between them. Main statements: the
texts that mangling leaves as they are are the fragments, so that to mangle twice is to mangle once,
and the fragment of a text is what comes of putting one kind of mark after the other, squeezing
underscores and stripping them.
-/

set_option autoImplicit false

namespace Understudy.Text

/-! ## Runs -/

section Runs

variable {keep : Char → Bool} {s t gap : List Char}

/-- Two texts have the same runs, whatever run they go on with. -/
def SameRuns (keep : Char → Bool) (s t : List Char) : Prop :=
  ∀ run, runsFrom keep run s = runsFrom keep run t

theorem SameRuns.cons (same : SameRuns keep s t) (c : Char) :
    SameRuns keep (c :: s) (c :: t) := by
  intro run
  unfold runsFrom
  rw [same, same]

theorem SameRuns.append_left (same : SameRuns keep s t) (front : List Char) :
    SameRuns keep (front ++ s) (front ++ t) := by
  induction front with
  | nil => exact same
  | cons c rest ih => exact ih.cons c

/-- A text that keeps runs apart. -/
def IsGap (keep : Char → Bool) (s : List Char) : Prop := s ≠ [] ∧ ∀ c ∈ s, keep c = false

theorem runsFrom_gap (apart : IsGap keep gap) (run s : List Char) :
    runsFrom keep run (gap ++ s) = flush run (runsFrom keep [] s) := by
  obtain ⟨wide, dropped⟩ := apart
  induction gap generalizing run with
  | nil => exact absurd rfl wide
  | cons c rest ih =>
    obtain ⟨here, others⟩ := List.forall_mem_cons.mp dropped
    rw [List.cons_append, runsFrom, if_neg (by simp [here])]
    by_cases last : rest = []
    · rw [last, List.nil_append]
    · rw [ih _ last others]
      rfl

theorem SameRuns.gap_append {other : List Char} (same : SameRuns keep s t)
    (apart : IsGap keep gap) (apart' : IsGap keep other) :
    SameRuns keep (gap ++ s) (other ++ t) := by
  intro run
  rw [runsFrom_gap apart, runsFrom_gap apart', same]

theorem runs_gap_append (dropped : ∀ c ∈ gap, keep c = false) (s : List Char) :
    runs keep (gap ++ s) = runs keep s := by
  by_cases narrow : gap = []
  · rw [narrow, List.nil_append]
  · exact runsFrom_gap ⟨narrow, dropped⟩ [] s

theorem sameRuns_append_gap (dropped : ∀ c ∈ gap, keep c = false) (s : List Char) :
    SameRuns keep (s ++ gap) s := by
  have ends : SameRuns keep gap [] := by
    intro run
    by_cases narrow : gap = []
    · rw [narrow]
    · rw [← List.append_nil gap, runsFrom_gap ⟨narrow, dropped⟩]
      rfl
  simpa using ends.append_left s

theorem kept_of_mem_runsFrom {run : List Char} (kept : ∀ c ∈ run, keep c = true) :
    ∀ r ∈ runsFrom keep run s, ∀ c ∈ r, keep c = true := by
  have flushed {run : List Char} {later : List (List Char)} (kept : ∀ c ∈ run, keep c = true)
      (others : ∀ r ∈ later, ∀ c ∈ r, keep c = true) :
      ∀ r ∈ flush run later, ∀ c ∈ r, keep c = true := by
    unfold flush
    split
    next => exact others
    next => simpa using ⟨kept, others⟩
  induction s generalizing run with
  | nil => exact flushed kept (by simp)
  | cons c rest ih =>
    unfold runsFrom
    split
    next more => exact ih (List.forall_mem_cons.mpr ⟨more, kept⟩)
    next => exact flushed kept (ih (by simp))

end Runs

/-! ## Fragments -/

/-- Plain characters with single underscores between them. -/
structure IsFragment (s : List Char) : Prop where
  /-- It consists of letters and digits of ASCII and of underscores. -/
  drawn : ∀ c ∈ s, isPlain c = true ∨ c = '_'
  head : s.head? ≠ some '_'
  last : s.getLast? ≠ some '_'
  single : ¬ ['_', '_'] <:+: s

variable {s t : List Char} {c : Char}

theorem ne_underscore (plain : isPlain c = true) : c ≠ '_' := by
  rintro rfl
  exact absurd plain (by decide)

theorem isGap_underscore : IsGap isPlain ['_'] := by simp [IsGap, isPlain]

theorem isFragment_nil : IsFragment [] :=
  ⟨by simp, by simp, by simp, by simp⟩

theorem IsFragment.cons (fragment : IsFragment s) (plain : isPlain c = true) :
    IsFragment (c :: s) := by
  have other := ne_underscore plain
  refine ⟨List.forall_mem_cons.mpr ⟨.inl plain, fragment.drawn⟩, by simpa using other, ?_, ?_⟩
  · have last := fragment.last
    rw [List.getLast?_cons]
    cases ending : s.getLast? with
    | none => simpa using other
    | some d => simpa [ending] using last
  · rw [List.infix_cons_iff, List.cons_prefix_cons]
    rintro (⟨same, _⟩ | inside)
    · exact other same.symm
    · exact fragment.single inside

theorem IsFragment.cons_underscore (fragment : IsFragment s) (something : s ≠ [])
    (plain : isPlain c = true) : IsFragment (c :: '_' :: s) := by
  obtain ⟨d, rest, rfl⟩ := List.exists_cons_of_ne_nil something
  have other := ne_underscore plain
  have apart : d ≠ '_' := by simpa using fragment.head
  refine ⟨?_, by simpa using other, ?_, ?_⟩
  · exact List.forall_mem_cons.mpr ⟨.inl plain, List.forall_mem_cons.mpr ⟨.inr rfl, fragment.drawn⟩⟩
  · simpa using fragment.last
  · rw [List.infix_cons_iff, List.infix_cons_iff]
    simp only [List.cons_prefix_cons]
    rintro (⟨same, _⟩ | ⟨_, same, _⟩ | inside)
    · exact other same.symm
    · exact apart same.symm
    · exact fragment.single inside

theorem IsFragment.append_left (fragment : IsFragment s) (plain : ∀ c ∈ t, isPlain c = true) :
    IsFragment (t ++ s) := by
  induction t with
  | nil => exact fragment
  | cons c rest ih =>
    obtain ⟨here, others⟩ := List.forall_mem_cons.mp plain
    exact (ih others).cons here

theorem IsFragment.append_underscore (fragment : IsFragment s) (something : s ≠ [])
    (filled : t ≠ []) (plain : ∀ c ∈ t, isPlain c = true) : IsFragment (t ++ '_' :: s) := by
  induction t with
  | nil => exact absurd rfl filled
  | cons c rest ih =>
    obtain ⟨here, others⟩ := List.forall_mem_cons.mp plain
    by_cases last : rest = []
    · rw [last]
      exact fragment.cons_underscore something here
    · exact (ih last others).cons here

theorem IsFragment.append (first : IsFragment s) (second : IsFragment t) :
    IsFragment (s ++ t) := by
  refine ⟨fun c member => (List.mem_append.mp member).elim (first.drawn c) (second.drawn c), ?_, ?_,
    ?_⟩
  · cases s with
    | nil => exact second.head
    | cons c rest => exact first.head
  · rw [List.getLast?_append]
    cases ending : t.getLast? with
    | none => exact first.last
    | some c =>
      rw [Option.some_or, ← ending]
      exact second.last
  · rw [List.infix_append_iff]
    rintro (inside | inside | ⟨front, back, same, ends, begins⟩)
    · exact first.single inside
    · exact second.single inside
    · cases back with
      | nil =>
        rw [List.append_nil] at same
        exact first.single (same ▸ ends.isInfix)
      | cons c more =>
        have mark : c = '_' := by
          have inside : c ∈ ['_', '_'] := same ▸ by simp
          simpa using inside
        obtain ⟨rest, rfl⟩ := begins
        exact second.head (by simp [mark])

theorem intercalate_ne_nil {word : List Char} (filled : word ≠ []) (more : List (List Char)) :
    ['_'].intercalate (word :: more) ≠ [] := by
  cases more <;> simp [List.intercalate_cons_cons, filled]

theorem isFragment_intercalate {words : List (List Char)} (filled : ∀ w ∈ words, w ≠ [])
    (plain : ∀ w ∈ words, ∀ c ∈ w, isPlain c = true) :
    IsFragment (['_'].intercalate words) := by
  induction words with
  | nil => exact isFragment_nil
  | cons word more ih =>
    obtain ⟨here, others⟩ := List.forall_mem_cons.mp plain
    obtain ⟨nonempty, filled⟩ := List.forall_mem_cons.mp filled
    cases more with
    | nil => simpa using isFragment_nil.append_left here
    | cons next more =>
      have something := intercalate_ne_nil (filled next List.mem_cons_self) more
      rw [List.intercalate_cons_cons, List.append_assoc]
      exact (ih filled others).append_underscore something nonempty here

theorem isFragment_joinPlain (s : List Char) : IsFragment (joinPlain s) :=
  isFragment_intercalate (runsFrom_nonempty _ s []) (kept_of_mem_runsFrom (by simp))

theorem IsFragment.after_underscore {front : List Char} (fragment : IsFragment (front ++ '_' :: s)) :
    IsFragment s ∧ s ≠ [] := by
  have something : s ≠ [] := by
    rintro rfl
    exact fragment.last (by simp)
  have inside : '_' :: s <:+: front ++ '_' :: s := (List.suffix_append _ _).isInfix
  refine ⟨⟨fun c member => fragment.drawn c (by simp [member]), fun first => ?_, fun last => ?_,
    fun doubled => ?_⟩, something⟩
  · obtain ⟨rest, rfl⟩ := List.head?_eq_some_iff.mp first
    exact fragment.single (List.IsInfix.trans ⟨[], rest, rfl⟩ inside)
  · exact fragment.last (by simp [List.getLast?_cons, last])
  · exact fragment.single (doubled.trans ((List.suffix_cons _ _).isInfix.trans inside))

theorem intercalate_runsFrom (run : List Char) (fragment : IsFragment (run.reverse ++ s)) :
    ['_'].intercalate (runsFrom isPlain run s) = run.reverse ++ s := by
  induction s generalizing run with
  | nil => by_cases empty : run = [] <;> simp [runsFrom, flush, empty]
  | cons c rest ih =>
    unfold runsFrom
    split
    next plain =>
      have moved : (c :: run).reverse ++ rest = run.reverse ++ c :: rest := by simp
      rw [ih _ (moved ▸ fragment), moved]
    next mark =>
      obtain rfl : c = '_' := (fragment.drawn c (by simp)).resolve_left mark
      obtain ⟨later, something⟩ := fragment.after_underscore
      have joined := ih [] (by simpa using later)
      rw [List.reverse_nil, List.nil_append] at joined
      have started : run ≠ [] := by
        rintro rfl
        exact fragment.head rfl
      obtain ⟨next, more, more_runs⟩ : ∃ next more, runsFrom isPlain [] rest = next :: more := by
        refine List.exists_cons_of_ne_nil fun none => something ?_
        rw [← joined, none, List.intercalate_nil]
      rw [more_runs] at joined ⊢
      rw [flush, if_neg (by simpa using started), List.intercalate_cons_cons, joined]
      simp

theorem joinPlain_eq_self (fragment : IsFragment s) : joinPlain s = s :=
  intercalate_runsFrom [] fragment

theorem joinPlain_congr (same : SameRuns isPlain s t) : joinPlain s = joinPlain t :=
  congrArg ['_'].intercalate (same [])

theorem suffix_joinPlain_append (fragment : IsFragment t) (front : List Char) :
    t <:+ joinPlain (front ++ t) := by
  have passed (run : List Char) (later : List (List Char)) :
      ['_'].intercalate later <:+ ['_'].intercalate (flush run later) := by
    unfold flush
    split
    next => exact List.suffix_rfl
    next =>
      cases later with
      | nil => simp
      | cons next more =>
        rw [List.intercalate_cons_cons]
        exact List.suffix_append _ _
  have kept {run : List Char} (plain : ∀ c ∈ run, isPlain c = true) :
      t <:+ ['_'].intercalate (runsFrom isPlain run (front ++ t)) := by
    induction front generalizing run with
    | nil =>
      rw [List.nil_append, intercalate_runsFrom run (fragment.append_left (by simpa using plain))]
      exact List.suffix_append _ _
    | cons c rest ih =>
      rw [List.cons_append, runsFrom]
      split
      next more => exact ih (List.forall_mem_cons.mpr ⟨more, plain⟩)
      next => exact (ih (by simp)).trans (passed run _)
  exact kept (by simp)

/-! ## Mangling -/

theorem toList_mangle (spelling : String) :
    (mangle spelling).toList = joinPlain (spelling.toList.flatMap expandMark) :=
  String.toList_ofList

theorem isFragment_mangle (spelling : String) : IsFragment (mangle spelling).toList := by
  rw [toList_mangle]
  exact isFragment_joinPlain _

theorem flatMap_expandMark_eq_self (drawn : ∀ c ∈ s, isPlain c = true ∨ c = '_') :
    s.flatMap expandMark = s := by
  have alone : ∀ c ∈ s, expandMark c = [c] := by
    intro c member
    have star : c ≠ '*' := by
      rintro rfl
      exact absurd (drawn _ member) (by decide)
    have ampersand : c ≠ '&' := by
      rintro rfl
      exact absurd (drawn _ member) (by decide)
    simp [expandMark, star, ampersand]
  rw [List.flatMap_congr alone, List.flatMap_singleton']

theorem mangle_eq_self_iff {name : String} : mangle name = name ↔ IsFragment name.toList := by
  rw [← String.toList_inj, toList_mangle]
  constructor
  · intro same
    rw [← same]
    exact isFragment_joinPlain _
  · intro fragment
    rw [flatMap_expandMark_eq_self fragment.drawn, joinPlain_eq_self fragment]

theorem mangle_mangle (spelling : String) : mangle (mangle spelling) = mangle spelling :=
  mangle_eq_self_iff.mpr (isFragment_mangle spelling)

theorem sameRuns_flattenScopes (s : List Char) :
    SameRuns isPlain ((flattenScopes s).flatMap expandMark) (s.flatMap expandMark) := by
  fun_induction flattenScopes s with
  | case1 rest ih =>
    have same : SameRuns isPlain _ _ := ih
    have mark : IsGap isPlain [':', ':'] := by simp [IsGap, isPlain]
    exact same.gap_append isGap_underscore mark
  | case2 c rest _ ih => exact SameRuns.append_left ih (expandMark c)
  | case3 => exact fun _ => rfl

theorem flatName_eq_mangle (name : String) : flatName name = mangle name := by
  rw [← String.toList_inj, flatName, toList_mangle, toList_mangle, String.toList_ofList]
  exact joinPlain_congr (sameRuns_flattenScopes _)

/-! ## Step by step -/

def replaceAll (old new s : List Char) : List Char := replace old new s.length s

def fragmentMarks : List (String × String) :=
  [("*", "_ptr"), ("&", "_ref"), ("::", "_"), (" ", "_"), (",", "_"), ("<", "_"), (">", "_")]

def replaceMarks (marks : List (String × String)) (s : List Char) : List Char :=
  marks.foldl (fun s (old, new) => replaceAll old.toList new.toList s) s

def underscored (c : Char) : Char := if isPlain c || c == '_' then c else '_'

/-- Of underscores that stand together the last one stays. -/
def squeeze : List Char → List Char
  | [] => []
  | c :: rest =>
    if c == '_' && rest.head? == some '_' then squeeze rest else c :: squeeze rest

def strip (s : List Char) : List Char := stripRight (· == '_') (stripLeft (· == '_') s)

/-- The fragment of a spelling, made in steps each of which goes through the whole text. -/
def fragmentByStep (s : List Char) : List Char :=
  strip (squeeze ((replaceMarks fragmentMarks s).map underscored))

theorem not_mem_of_cutFirst_char {before after : List Char}
    (cut : cutFirst [c] s = some (before, after)) : c ∉ before := by
  induction s generalizing before with
  | nil => cases cut
  | cons d rest ih =>
    unfold cutFirst at cut
    split at cut
    next =>
      cases cut
      exact List.not_mem_nil
    next other =>
      obtain ⟨⟨front, back⟩, later, same⟩ := Option.map_eq_some_iff.mp cut
      cases same
      have apart : c ≠ d := by simpa using other
      simpa [apart] using ih later

theorem not_mem_of_cutFirst_char_eq_none (none : cutFirst [c] s = none) : c ∉ s := by
  induction s with
  | nil => exact List.not_mem_nil
  | cons d rest ih =>
    unfold cutFirst at none
    split at none
    next => cases none
    next other =>
      have apart : c ≠ d := by simpa using other
      simpa [apart] using ih (Option.map_eq_none_iff.mp none)

theorem replaceAll_char (c : Char) (new s : List Char) :
    replaceAll [c] new s = s.flatMap fun d => if d == c then new else [d] := by
  have untouched {t : List Char} (clean : c ∉ t) :
      (t.flatMap fun d => if d == c then new else [d]) = t := by
    have alone : ∀ d ∈ t, (if d == c then new else [d]) = [d] := by
      intro d member
      have apart : d ≠ c := fun same => clean (same ▸ member)
      simp [apart]
    rw [List.flatMap_congr alone, List.flatMap_singleton']
  have upTo (times : Nat) (t : List Char) (enough : t.length ≤ times) :
      replaceUpTo [c] new times t = t.flatMap fun d => if d == c then new else [d] := by
    fun_induction replaceUpTo [c] new times t with
    | case1 t =>
      rw [List.length_eq_zero_iff.mp (Nat.le_zero.mp enough), List.flatMap_nil]
    | case2 times t before after cut ih =>
      have whole := cutFirst_append cut
      rw [whole] at enough ⊢
      simp only [List.length_append, List.length_singleton] at enough
      rw [ih (by omega), List.flatMap_append, List.flatMap_append,
        untouched (not_mem_of_cutFirst_char cut)]
      simp
    | case3 times t cut => rw [untouched (not_mem_of_cutFirst_char_eq_none cut)]
  exact upTo _ s le_rfl

theorem sameRuns_replaceAll {old new : List Char} (apart : IsGap isPlain old)
    (apart' : IsGap isPlain new) (s : List Char) : SameRuns isPlain (replaceAll old new s) s := by
  have upTo (times : Nat) (t : List Char) :
      SameRuns isPlain (replaceUpTo old new times t) t := by
    fun_induction replaceUpTo old new times t with
    | case1 => exact fun _ => rfl
    | case2 times t before after cut ih =>
      have later : SameRuns isPlain (replaceUpTo old new times after) after := ih
      rw [cutFirst_append cut, List.append_assoc, List.append_assoc]
      exact (later.gap_append apart' apart).append_left before
    | case3 => exact fun _ => rfl
  unfold replaceAll replace
  rw [if_neg (by simpa using apart.1)]
  exact upTo _ s

theorem replaceMarks_append (marks more : List (String × String)) (s : List Char) :
    replaceMarks (marks ++ more) s = replaceMarks more (replaceMarks marks s) :=
  List.foldl_append

theorem sameRuns_replaceMarks {marks : List (String × String)}
    (gaps : ∀ m ∈ marks, IsGap isPlain m.1.toList ∧ IsGap isPlain m.2.toList) (s : List Char) :
    SameRuns isPlain (replaceMarks marks s) s := by
  induction marks generalizing s with
  | nil => exact fun _ => rfl
  | cons mark more ih =>
    obtain ⟨⟨apart, apart'⟩, others⟩ := List.forall_mem_cons.mp gaps
    intro run
    exact (ih others _ run).trans (sameRuns_replaceAll apart apart' s run)

theorem sameRuns_fragmentMarks (s : List Char) :
    SameRuns isPlain (replaceMarks fragmentMarks s) (s.flatMap expandMark) := by
  have spelled : replaceMarks (fragmentMarks.take 2) s = s.flatMap expandMark := by
    have one : replaceMarks (fragmentMarks.take 2) s =
        replaceAll ['&'] "_ref".toList (replaceAll ['*'] "_ptr".toList s) := rfl
    rw [one, replaceAll_char, replaceAll_char, List.flatMap_assoc]
    congr 1
    funext c
    unfold expandMark
    split
    next => simp
    next => simp
  rw [← List.take_append_drop 2 fragmentMarks, replaceMarks_append, spelled]
  exact sameRuns_replaceMarks (by simp [fragmentMarks, IsGap, isPlain]) _

theorem sameRuns_underscored (s : List Char) : SameRuns isPlain (s.map underscored) s := by
  induction s with
  | nil => exact fun _ => rfl
  | cons c rest ih =>
    by_cases drawn : isPlain c || c == '_'
    · simpa [underscored, drawn] using ih.cons c
    · have mark : IsGap isPlain [c] := ⟨by simp, by simp_all⟩
      simpa [underscored, drawn] using ih.gap_append isGap_underscore mark

theorem sameRuns_squeeze (s : List Char) : SameRuns isPlain (squeeze s) s := by
  induction s with
  | nil => exact fun _ => rfl
  | cons c rest ih =>
    unfold squeeze
    split
    next doubled =>
      obtain ⟨rfl, first⟩ : c = '_' ∧ rest.head? = some '_' := by simpa using doubled
      obtain ⟨more, rfl⟩ := List.head?_eq_some_iff.mp first
      have same : SameRuns isPlain more more := fun _ => rfl
      have doubled : IsGap isPlain ['_', '_'] := by simp [IsGap, isPlain]
      intro run
      rw [ih run]
      exact same.gap_append isGap_underscore doubled run
    next => exact ih.cons c

theorem head?_squeeze (s : List Char) : (squeeze s).head? = s.head? := by
  induction s with
  | nil => rfl
  | cons c rest ih =>
    unfold squeeze
    split
    next doubled =>
      obtain ⟨rfl, first⟩ : c = '_' ∧ rest.head? = some '_' := by simpa using doubled
      rw [ih, first]
      rfl
    next => rfl

theorem squeeze_sublist (s : List Char) : (squeeze s).Sublist s := by
  induction s with
  | nil => exact .slnil
  | cons c rest ih =>
    unfold squeeze
    split
    · exact ih.cons c
    · exact ih.cons_cons c

theorem squeeze_single (s : List Char) : ¬ ['_', '_'] <:+: squeeze s := by
  induction s with
  | nil => simp [squeeze]
  | cons c rest ih =>
    unfold squeeze
    split
    next => exact ih
    next apart =>
      rw [List.infix_cons_iff, List.cons_prefix_cons]
      rintro (⟨rfl, first⟩ | inside)
      · obtain ⟨more, same⟩ := first
        have head := head?_squeeze rest
        rw [← same] at head
        exact apart (by simp [← head])
      · exact ih inside

theorem isFragment_strip (drawn : ∀ c ∈ s, isPlain c = true ∨ c = '_')
    (single : ¬ ['_', '_'] <:+: s) : IsFragment (strip s) := by
  have right : strip s <+: s.dropWhile (· == '_') := List.rdropWhile_prefix _ _
  have inside : strip s <:+: s := right.isInfix.trans (List.dropWhile_suffix _).isInfix
  refine ⟨fun c member => drawn c (inside.subset member), fun first => ?_, fun last => ?_,
    fun doubled => single (doubled.trans inside)⟩
  · obtain ⟨more, same⟩ := List.head?_eq_some_iff.mp first
    obtain ⟨back, whole⟩ := right
    have stopped := List.head?_dropWhile_not (· == '_') s
    rw [← whole, same] at stopped
    exact absurd stopped (by simp)
  · have stopped := List.head?_dropWhile_not (· == '_') (s.dropWhile (· == '_')).reverse
    rw [strip, stripRight, List.getLast?_reverse] at last
    rw [stripLeft] at last
    rw [last] at stopped
    exact absurd stopped (by simp)

theorem joinPlain_strip (s : List Char) : joinPlain (strip s) = joinPlain s := by
  have dropped {t : List Char} (only : ∀ c ∈ t, (c == '_') = true) : ∀ c ∈ t, isPlain c = false := by
    intro c member
    rw [beq_iff_eq.mp (only c member)]
    decide
  have left : joinPlain (s.dropWhile (· == '_')) = joinPlain s := by
    conv_rhs => rw [← List.takeWhile_append_dropWhile (p := (· == '_')) (l := s)]
    exact (congrArg ['_'].intercalate
      (runs_gap_append (dropped fun c => List.mem_takeWhile_imp) _)).symm
  have right (t : List Char) : joinPlain (t.rdropWhile (· == '_')) = joinPlain t := by
    conv_rhs => rw [← List.rdropWhile_append_rtakeWhile (p := (· == '_')) (l := t)]
    exact (joinPlain_congr (sameRuns_append_gap (dropped fun c => List.mem_rtakeWhile_imp) _)).symm
  exact (right _).trans left

theorem toList_mangle_eq_fragmentByStep (spelling : String) :
    (mangle spelling).toList = fragmentByStep spelling.toList := by
  have drawn : ∀ c ∈ (replaceMarks fragmentMarks spelling.toList).map underscored,
      isPlain c = true ∨ c = '_' := by
    intro c member
    obtain ⟨d, _, rfl⟩ := List.mem_map.mp member
    unfold underscored
    split
    next fit => simpa using fit
    next => exact .inr rfl
  have fragment : IsFragment (fragmentByStep spelling.toList) :=
    isFragment_strip (fun c member => drawn c ((squeeze_sublist _).subset member))
      (squeeze_single _)
  rw [toList_mangle]
  calc joinPlain (spelling.toList.flatMap expandMark)
      = joinPlain (replaceMarks fragmentMarks spelling.toList) :=
        (joinPlain_congr (sameRuns_fragmentMarks _)).symm
    _ = joinPlain ((replaceMarks fragmentMarks spelling.toList).map underscored) :=
        (joinPlain_congr (sameRuns_underscored _)).symm
    _ = joinPlain (squeeze ((replaceMarks fragmentMarks spelling.toList).map underscored)) :=
        (joinPlain_congr (sameRuns_squeeze _)).symm
    _ = joinPlain (fragmentByStep spelling.toList) := (joinPlain_strip _).symm
    _ = fragmentByStep spelling.toList := joinPlain_eq_self fragment

/-- What mangling makes of a text. -/
structure Settles (s : String) : Prop where
  fragment : IsFragment (mangle s).toList
  /-- It comes of the replacements one after the other, whatever they do to each other's marks. -/
  byStep : (mangle s).toList = fragmentByStep s.toList
  again : mangle (mangle s) = mangle s
  flat : flatName s = mangle s

theorem settles (s : String) : Settles s :=
  ⟨isFragment_mangle s, toList_mangle_eq_fragmentByStep s, mangle_mangle s, flatName_eq_mangle s⟩

end Understudy.Text
