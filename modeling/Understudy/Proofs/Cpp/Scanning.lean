import Understudy.Proofs.Cpp.Reading

/-! What a spelling is cut into.

Every word that is found is a qualified name, whatever stands around it. What stands between tokens
is passed over, so that a text says more than its tokens unless nothing but blanks is there.
-/

set_option autoImplicit false

namespace Understudy.Cpp.Token

/-! ## Words -/

theorem isWordChar_of_isWordStart {c : Char} (starts : isWordStart c = true) :
    Text.isWordChar c = true := by
  have ascii : ∀ n < 128, isWordStart (Char.ofNat n) = true →
      Text.isWordChar (Char.ofNat n) = true := by
    decide +kernel
  have small : c.toNat < 128 := by
    unfold isWordStart at starts
    rcases Bool.or_eq_true_iff.mp starts with score | letter
    · rw [beq_iff_eq.mp score]
      decide
    · delta Char.isAlpha Char.isUpper Char.isLower at letter
      simp only [Bool.or_eq_true, Bool.and_eq_true, decide_eq_true_eq,
        UInt32.le_iff_toNat_le] at letter
      change c.val.toNat < 128
      rcases letter with ⟨_, upper⟩ | ⟨_, lower⟩
      · exact Nat.lt_of_le_of_lt upper (by decide)
      · exact Nat.lt_of_le_of_lt lower (by decide)
  have here := ascii c.toNat small
  rw [Char.ofNat_toNat] at here
  exact here starts

theorem isWord_concat {w : List Char} {c : Char} (word : isWord w = true)
    (goesOn : Text.isWordChar c = true) : isWord (w ++ [c]) = true := by
  cases w with
  | nil => cases word
  | cons d w =>
    obtain ⟨starts, others⟩ := Bool.and_eq_true_iff.mp word
    rw [List.cons_append, isWord, starts, List.all_append, others]
    simp [goesOn]

theorem IsChain.concat {s : List Char} {c : Char} (chain : IsChain s)
    (goesOn : Text.isWordChar c = true) : IsChain (s ++ [c]) := by
  induction chain with
  | single word => exact .single (isWord_concat word goesOn)
  | cons word _ ih =>
    rw [List.append_assoc]
    exact .cons word ih

theorem IsChain.append_word {s w : List Char} (chain : IsChain s) (word : isWord w = true) :
    IsChain (s ++ scopeMark ++ w) := by
  induction chain with
  | single first => exact .cons first (.single word)
  | cons first _ ih =>
    rw [List.append_assoc, List.append_assoc, ← List.append_assoc _ scopeMark w]
    exact .cons first ih

/-- The characters of a qualified name, in reverse. -/
def IsRun (run : List Char) : Prop := IsQualified (String.ofList run.reverse)

theorem isRun_iff {run : List Char} :
    IsRun run ↔ IsChain run.reverse ∨ ∃ rest, run.reverse = scopeMark ++ rest ∧ IsChain rest := by
  rw [IsRun, IsQualified, String.toList_ofList]

theorem isWord_singleton {c : Char} (starts : isWordStart c = true) : isWord [c] = true := by
  simp [isWord, starts]

theorem IsRun.scope {run : List Char} {c : Char} (named : run = [] ∨ IsRun run)
    (starts : isWordStart c = true) : IsRun (c :: ':' :: ':' :: run) := by
  have word := isWord_singleton starts
  have same : (c :: ':' :: ':' :: run).reverse = run.reverse ++ scopeMark ++ [c] := by
    simp [scopeMark]
  rw [isRun_iff, same]
  rcases named with rfl | named
  · exact .inr ⟨[c], rfl, .single word⟩
  · rcases isRun_iff.mp named with chain | ⟨rest, led, chain⟩
    · exact .inl (chain.append_word word)
    · refine .inr ⟨rest ++ scopeMark ++ [c], ?_, chain.append_word word⟩
      rw [led, List.append_assoc, List.append_assoc, List.append_assoc]

theorem IsRun.char {run : List Char} {c : Char} (named : run = [] ∨ IsRun run)
    (goesOn : (isWordStart c || (!run.isEmpty && Text.isWordChar c)) = true) :
    IsRun (c :: run) := by
  rw [isRun_iff, List.reverse_cons]
  rcases named with rfl | named
  · exact .inl (.single (isWord_singleton (by simpa using goesOn)))
  · have char : Text.isWordChar c = true := by
      rcases Bool.or_eq_true_iff.mp goesOn with starts | later
      · exact isWordChar_of_isWordStart starts
      · exact (Bool.and_eq_true_iff.mp later).2
    rcases isRun_iff.mp named with chain | ⟨rest, led, chain⟩
    · exact .inl (chain.concat char)
    · refine .inr ⟨rest ++ [c], ?_, chain.concat char⟩
      rw [led, List.append_assoc]

theorem isQualified_of_mem_endWord {run : List Char} {later : List Token}
    (named : run = [] ∨ IsRun run) (others : ∀ w, .word w ∈ later → IsQualified w) :
    ∀ w, .word w ∈ endWord run later → IsQualified w := by
  intro w member
  unfold endWord at member
  split at member
  next => exact others w member
  next some =>
    rcases List.mem_cons.mp member with same | member
    · cases same
      exact named.resolve_left fun none => some (by simp [none])
    · exact others w member

theorem isQualified_of_mem_scanFrom {run s : List Char} (named : run = [] ∨ IsRun run) :
    ∀ w, .word w ∈ scanFrom run s → IsQualified w := by
  -- The run is empty or a qualified name at each step, so that it is one where it ends.
  fun_induction scanFrom run s with
  | case1 run => exact isQualified_of_mem_endWord named (by simp)
  | case2 run c rest starts ih => exact ih (.inr (.scope named starts))
  | case3 run c rest _ ih => exact isQualified_of_mem_endWord named (ih (.inl rfl))
  | case4 run c rest _ _ ih | case5 run c rest _ _ _ ih =>
    apply isQualified_of_mem_endWord named
    intro w member
    exact ih (.inl rfl) w (by simpa using member)
  | case6 run c rest _ _ _ goesOn ih => exact ih (.inr (.char named goesOn))
  | case7 run c rest _ _ _ _ ih => exact isQualified_of_mem_endWord named (ih (.inl rfl))

theorem isQualified_of_mem_scan {s w : String} (member : .word w ∈ scan s) : IsQualified w :=
  isQualified_of_mem_scanFrom (.inl rfl) w member

/-! ## Blanks -/

theorem endsWord_of_isBlank {c : Char} (blank : Text.isBlank c = true) :
    EndsWord c ∧ c ≠ '*' ∧ c ≠ '&' := by
  have all : ∀ r ∈ Text.blankRanges, ∀ n ∈ List.range' r.1 (r.2 + 1 - r.1),
      Char.ofNat n ≠ ':' ∧ isWordStart (Char.ofNat n) = false ∧
        Text.isWordChar (Char.ofNat n) = false ∧ Char.ofNat n ≠ '*' ∧ Char.ofNat n ≠ '&' := by
    decide +kernel
  obtain ⟨r, listed, low, high⟩ := Text.inRanges_sound _ _ blank
  have here := all r listed c.toNat (by rw [List.mem_range'_1]; omega)
  rw [Char.ofNat_toNat] at here
  exact ⟨⟨here.1, here.2.1, here.2.2.1⟩, here.2.2.2⟩

/-- A text of tokens with blanks before, between and behind them. A word ends where the text ends,
at a blank or at a mark. -/
inductive IsSpaced : List Token → List Char → Prop where
  | nil : IsSpaced [] []
  | blank {c : Char} {tokens : List Token} {rest : List Char} :
      Text.isBlank c = true → IsSpaced tokens rest → IsSpaced tokens (c :: rest)
  | star {tokens : List Token} {rest : List Char} :
      IsSpaced tokens rest → IsSpaced (.star :: tokens) ('*' :: rest)
  | ampersand {tokens : List Token} {rest : List Char} :
      IsSpaced tokens rest → IsSpaced (.ampersand :: tokens) ('&' :: rest)
  | word {name : String} {tokens : List Token} {rest : List Char} :
      IsQualified name → (∀ c ∈ rest.head?, Text.isBlank c = true ∨ c = '*' ∨ c = '&') →
        IsSpaced tokens rest → IsSpaced (.word name :: tokens) (name.toList ++ rest)

theorem IsSpaced.scanFrom {tokens : List Token} {s : List Char} (spaced : IsSpaced tokens s) :
    scanFrom [] s = tokens := by
  induction spaced with
  | nil => rfl
  | @blank c tokens rest blank _ ih =>
    obtain ⟨⟨noColon, starts, _⟩, noStar, noAmpersand⟩ := endsWord_of_isBlank blank
    rw [scanFrom_cons fun _ _ colon => absurd colon noColon, if_neg (by simpa using noStar),
      if_neg (by simpa using noAmpersand), if_neg (by simp [starts]), ih]
    rfl
  | star _ ih | ampersand _ ih => rw [Token.scanFrom.eq_def]; simp [endWord, ih]
  | @word name tokens rest qualified ends _ ih =>
    have read : Token.scanFrom [] name.toList = [.word name] := qualified.scan
    cases rest with
    | nil =>
      rw [List.append_nil, read, ← ih]
      rfl
    | cons c rest =>
      have ends : EndsWord c := by
        rcases ends c rfl with blank | rfl | rfl
        · exact (endsWord_of_isBlank blank).1
        · exact endsWord_star
        · exact endsWord_ampersand
      rw [scanFrom_append ends, read, ih]
      rfl

theorem IsChain.chars {s : List Char} (chain : IsChain s) :
    ∀ c ∈ s, c = ':' ∨ Text.isWordChar c = true := by
  have one {w : List Char} (word : isWord w = true) : ∀ c ∈ w, Text.isWordChar c = true := by
    cases w with
    | nil => simp
    | cons d w =>
      obtain ⟨starts, others⟩ := Bool.and_eq_true_iff.mp word
      rw [List.forall_mem_cons]
      exact ⟨isWordChar_of_isWordStart starts, List.all_eq_true.mp others⟩
  induction chain with
  | single word => exact fun c member => .inr (one word c member)
  | cons word _ ih =>
    intro c member
    rw [List.mem_append, List.mem_append] at member
    rcases member with (first | mark) | later
    · exact .inr (one word c first)
    · exact .inl (by simpa [scopeMark] using mark)
    · exact ih c later

theorem IsSpaced.chars {tokens : List Token} {s : List Char} (spaced : IsSpaced tokens s) :
    ∀ c ∈ s, Text.isBlank c = true ∨ c = '*' ∨ c = '&' ∨ c = ':' ∨ Text.isWordChar c = true := by
  induction spaced with
  | nil => simp
  | blank blank _ ih => exact List.forall_mem_cons.mpr ⟨.inl blank, ih⟩
  | star _ ih => exact List.forall_mem_cons.mpr ⟨.inr (.inl rfl), ih⟩
  | ampersand _ ih => exact List.forall_mem_cons.mpr ⟨.inr (.inr (.inl rfl)), ih⟩
  | word qualified _ _ ih =>
    refine List.forall_mem_append.mpr ⟨?_, ih⟩
    intro c member
    rcases qualified with chain | ⟨rest, led, chain⟩
    · exact .inr (.inr (.inr (chain.chars c member)))
    · rw [led, List.mem_append] at member
      rcases member with mark | later
      · exact .inr (.inr (.inr (.inl (by simpa [scopeMark] using mark))))
      · exact .inr (.inr (.inr (chain.chars c later)))

end Understudy.Cpp.Token
