import Understudy.Proofs.Cpp.Scanning

/-! Which spellings are accepted as types, and what they are read as.

Main statements: a type that was read comes back from its own spelling, but for const on references,
which has none. Whether a spelling is accepted is settled by its tokens alone, so text that is no
token is dropped without a word; a spelling means what it says if nothing but blanks is dropped.
-/

set_option autoImplicit false

namespace Understudy.Cpp

open Token (IsQualified IsSpaced)

/-! ## Sequences of tokens -/

/-- The words that make up a base: neither qualifiers nor keywords that elaborate a name. -/
def baseWords (words : List String) : List String :=
  words.filter fun w => !qualifierWords.contains w && !elaboratedWords.contains w

/-- Words that name a type: builtin ones, or a single one. -/
def NamesType (words : List String) : Prop :=
  words ≠ [] ∧ (∀ w ∈ words, w ∈ primitiveWords) ∨ ∃ name, words = [name]

def suffixTokens : List Token := [.star, .ampersand, .word "const", .word "volatile"]

/-- Words with those of a base among them, and marks and qualifiers behind them. -/
def IsTypeSequence (tokens : List Token) : Prop :=
  ∃ words suffix, tokens = words.map .word ++ suffix ∧ NamesType (baseWords words) ∧
    ∀ token ∈ suffix, token ∈ suffixTokens

theorem takeBase_append (words : List String) (later : List Token) :
    ∃ isConst, takeBase (words.map .word ++ later) =
      (baseWords words ++ (takeBase later).1, isConst, (takeBase later).2.2) := by
  induction words with
  | nil => exact ⟨_, rfl⟩
  | cons w rest ih =>
    obtain ⟨isConst, taken⟩ := ih
    simp only [List.map_cons, List.cons_append, takeBase, taken, baseWords, List.filter_cons]
    cases qualifies : qualifierWords.contains w with
    | true => exact ⟨_, rfl⟩
    | false =>
      cases elaborates : elaboratedWords.contains w with
      | true => exact ⟨_, rfl⟩
      | false => exact ⟨_, rfl⟩

theorem exists_words_takeBase (tokens : List Token) :
    ∃ words, tokens = words.map .word ++ (takeBase tokens).2.2 ∧
      (takeBase tokens).1 = baseWords words := by
  induction tokens with
  | nil => exact ⟨[], rfl, rfl⟩
  | cons token rest ih =>
    cases token with
    | star | ampersand => exact ⟨[], rfl, rfl⟩
    | word w =>
      obtain ⟨words, split, taken⟩ := ih
      refine ⟨w :: words, ?_, ?_⟩
      · simp only [takeBase, List.map_cons, List.cons_append]
        split
        next => rw [← split]
        next => split <;> rw [← split]
      · simp only [takeBase, taken, baseWords, List.filter_cons]
        cases qualifies : qualifierWords.contains w with
        | true => rfl
        | false => cases elaborates : elaboratedWords.contains w <;> rfl

theorem takeBase_suffix {suffix : List Token} (marks : ∀ token ∈ suffix, token ∈ suffixTokens) :
    (takeBase suffix).1 = [] ∧ ∀ token ∈ (takeBase suffix).2.2, token ∈ suffixTokens := by
  obtain ⟨words, split, taken⟩ := exists_words_takeBase suffix
  rw [split] at marks
  obtain ⟨front, back⟩ := List.forall_mem_append.mp marks
  refine ⟨?_, back⟩
  rw [taken, baseWords, List.filter_eq_nil_iff]
  intro w member
  have mark := front _ (List.mem_map_of_mem member)
  simp only [suffixTokens, List.mem_cons, reduceCtorEq, Token.word.injEq, List.not_mem_nil,
    or_false, false_or] at mark
  rcases mark with rfl | rfl <;> decide

theorem isPrimitiveSpelling_iff {words : List String} :
    isPrimitiveSpelling words = true ↔ words ≠ [] ∧ ∀ w ∈ words, w ∈ primitiveWords := by
  simp [isPrimitiveSpelling]

theorem exists_baseType_iff (text : String) {words : List String} (isConst : Bool) :
    (∃ t, baseType text words isConst = .ok t) ↔ NamesType words := by
  unfold baseType NamesType
  rw [← isPrimitiveSpelling_iff]
  match words with
  | [] => simp [isPrimitiveSpelling]
  | [name] => by_cases builtin : isPrimitiveSpelling [name] = true <;> simp [builtin]
  | first :: next :: rest =>
    by_cases builtin : isPrimitiveSpelling (first :: next :: rest) = true <;> simp [builtin]

theorem exists_addLayers_iff (text : String) (t : SemanticType) {tokens : List Token} :
    (∃ read, addLayers text t tokens = .ok read) ↔ ∀ token ∈ tokens, token ∈ suffixTokens := by
  induction tokens generalizing t with
  | nil => simp [addLayers]
  | cons token rest ih =>
    rw [List.forall_mem_cons]
    cases token with
    | star | ampersand =>
      rw [addLayers, ih]
      simp [suffixTokens]
    | word w =>
      rw [addLayers]
      by_cases isConst : w = "const"
      · simp [isConst, ih, suffixTokens]
      · by_cases isVolatile : w = "volatile"
        · simp [isVolatile, ih, suffixTokens]
        · simp [isConst, isVolatile, suffixTokens]

theorem parseType_eq_ok_iff {s : String} {t : SemanticType} :
    parseType s = .ok t ↔ ∃ base,
      baseType s (takeBase (Token.scan s)).1 (takeBase (Token.scan s)).2.1 = .ok base ∧
        addLayers s base (takeBase (Token.scan s)).2.2 = .ok t := by
  unfold parseType
  cases Token.scan s with
  | nil => simp [takeBase, baseType]
  | cons token rest =>
    rw [if_neg (by simp)]
    obtain ⟨words, isConst, layers⟩ := takeBase (token :: rest)
    dsimp only
    cases baseType s words isConst with
    | error fault => simp [Except.bind]
    | ok base => simp [Except.bind]

/-- Nothing but the tokens of a spelling tells whether it is accepted. -/
theorem exists_parseType_iff (s : String) :
    (∃ t, parseType s = .ok t) ↔ IsTypeSequence (Token.scan s) := by
  simp only [parseType_eq_ok_iff]
  constructor
  · rintro ⟨t, base, based, layered⟩
    obtain ⟨words, split, taken⟩ := exists_words_takeBase (Token.scan s)
    refine ⟨words, _, split, ?_, (exists_addLayers_iff _ _).mp ⟨t, layered⟩⟩
    rw [← taken]
    exact (exists_baseType_iff _ _).mp ⟨base, based⟩
  · rintro ⟨words, suffix, split, names, marks⟩
    obtain ⟨isConst, taken⟩ := takeBase_append words suffix
    obtain ⟨none, later⟩ := takeBase_suffix marks
    rw [none, List.append_nil] at taken
    obtain ⟨base, based⟩ := (exists_baseType_iff s isConst).mpr names
    obtain ⟨t, layered⟩ := (exists_addLayers_iff s base).mpr later
    rw [split, taken]
    exact ⟨t, base, based, layered⟩

/-! ## What is dropped -/

def Accepts (s : String) : Prop := ∃ t, parseType s = .ok t

/-- Whether a text holds tokens and blanks only. -/
def IsMadeOfTokens (s : String) : Prop := ∃ tokens, IsSpaced tokens s.toList

/-- Whether a text is the sequence of tokens of a type, up to blanks. -/
def IsTypeText (s : String) : Prop := ∃ tokens, IsSpaced tokens s.toList ∧ IsTypeSequence tokens

theorem isTypeText_iff {s : String} :
    IsTypeText s ↔ IsMadeOfTokens s ∧ IsTypeSequence (Token.scan s) := by
  constructor
  · rintro ⟨tokens, spaced, sequence⟩
    have scanned : Token.scan s = tokens := spaced.scanFrom
    rw [scanned]
    exact ⟨⟨tokens, spaced⟩, sequence⟩
  · rintro ⟨⟨tokens, spaced⟩, sequence⟩
    have scanned : Token.scan s = tokens := spaced.scanFrom
    rw [scanned] at sequence
    exact ⟨tokens, spaced, sequence⟩

/-- A spelling is accepted if its tokens make up a type. So exactly those are accepted that are
types up to blanks, but for spellings in which other text is dropped from a type. -/
theorem accepts_iff_isTypeText_iff (s : String) :
    (Accepts s ↔ IsTypeSequence (Token.scan s)) ∧
      ((Accepts s ↔ IsTypeText s) ↔ (Accepts s → IsMadeOfTokens s)) := by
  have sequence : Accepts s ↔ IsTypeSequence (Token.scan s) := exists_parseType_iff s
  refine ⟨sequence, ?_⟩
  rw [isTypeText_iff, ← sequence]
  exact ⟨fun same accepted => (same.mp accepted).1,
    fun made => ⟨fun accepted => ⟨made accepted, accepted⟩, And.right⟩⟩

/-- The bounds of an array are dropped from its type. -/
theorem not_accepts_iff_isTypeText_bounds : ¬ (Accepts "int[3]" ↔ IsTypeText "int[3]") := by
  intro same
  have read : parseType "int[3]" = .ok (.primitive "int" false) := by rfl
  obtain ⟨tokens, spaced, _⟩ := same.mp ⟨_, read⟩
  have bracket := spaced.chars '[' (by decide)
  revert bracket
  decide +kernel

/-! ## What is read back -/

namespace SemanticType

def clearReferences : SemanticType → SemanticType
  | .pointer inner isConst => .pointer inner.clearReferences isConst
  | .reference inner _ => .reference inner.clearReferences false
  | t => t

def hasConstReference : SemanticType → Bool
  | .pointer inner _ => inner.hasConstReference
  | .reference inner isConst => isConst || inner.hasConstReference
  | _ => false

/-- A base of builtin words, or of a qualified name that is a single token. -/
def IsInWords : SemanticType → Prop
  | .primitive name _ =>
    ∃ words, words ≠ [] ∧ (∀ w ∈ words, w ∈ primitiveWords) ∧ name = " ".intercalate words
  | .named name _ => IsQualified name ∧ Token.scan name = [.word name]
  | _ => False

theorem spelling_clearReferences (t : SemanticType) : t.clearReferences.spelling = t.spelling := by
  induction t with
  | pointer inner isConst ih | reference inner isConst ih =>
    simp only [clearReferences, spelling, ih]
  | _ => rfl

theorem base_clearReferences (t : SemanticType) : t.clearReferences.base = t.base := by
  induction t with
  | pointer inner isConst ih | reference inner isConst ih => exact ih
  | _ => rfl

theorem clearReferences_eq_self {t : SemanticType} (none : t.hasConstReference = false) :
    t.clearReferences = t := by
  induction t with
  | pointer inner isConst ih => rw [clearReferences, ih none]
  | reference inner isConst ih =>
    obtain ⟨here, inside⟩ := Bool.or_eq_false_iff.mp none
    rw [clearReferences, ih inside, here]
  | _ => rfl

theorem IsWritten.isInWords_base {t : SemanticType} (written : t.IsWritten) :
    t.base.IsInWords := by
  induction written with
  | primitive isConst some builtin => exact ⟨_, some, builtin, rfl⟩
  | named isConst qualified => exact ⟨qualified, qualified.scan⟩
  | pointer _ _ ih | reference _ ih => exact ih

theorem IsWritten.hasConstReference {t : SemanticType} (written : t.IsWritten) :
    t.hasConstReference = false := by
  induction written with
  | primitive | named => rfl
  | pointer _ _ ih | reference _ ih => exact ih

theorem isWritten_baseType {text : String} {words : List String} {isConst : Bool}
    {t : SemanticType} (based : baseType text words isConst = .ok t)
    (plain : ∀ w ∈ words, IsQualified w ∧ w ∉ qualifierWords ∧ w ∉ elaboratedWords) :
    t.IsWritten := by
  unfold baseType at based
  split at based
  next => cases based
  next =>
    split at based
    next builtin =>
      cases based
      obtain ⟨some, builtin⟩ := isPrimitiveSpelling_iff.mp builtin
      exact .primitive isConst some builtin
    next other =>
      split at based
      next name _ =>
        cases based
        obtain ⟨qualified, unqualifying, unelaborated⟩ := plain name (by simp)
        exact .named isConst qualified (by simpa [isPrimitiveSpelling] using other) unqualifying
          unelaborated
      next => cases based

theorem isWritten_setConst {t : SemanticType} (written : t.clearReferences.IsWritten) :
    (t.setConst true).clearReferences.IsWritten := by
  cases t with
  | primitive name isConst =>
    cases written with
    | primitive _ some builtin => exact .primitive true some builtin
  | named name isConst =>
    cases written with
    | named _ qualified unbuiltin unqualifying unelaborated =>
      exact .named true qualified unbuiltin unqualifying unelaborated
  | misnamed builtin name isConst => cases written
  | pointer inner isConst =>
    cases written with
    | pointer _ written => exact .pointer true written
  | reference inner isConst => exact written

theorem isWritten_addLayers {text : String} {t read : SemanticType} {tokens : List Token}
    (layered : addLayers text t tokens = .ok read) (written : t.clearReferences.IsWritten) :
    read.clearReferences.IsWritten := by
  induction tokens generalizing t with
  | nil =>
    cases layered
    exact written
  | cons token rest ih =>
    cases token with
    | star => exact ih layered (.pointer false written)
    | ampersand => exact ih layered (.reference written)
    | word w =>
      rw [addLayers] at layered
      split at layered
      next => exact ih layered (isWritten_setConst written)
      next =>
        split at layered
        next => exact ih layered written
        next => cases layered

theorem isWritten_of_parseType {s : String} {t : SemanticType} (read : parseType s = .ok t) :
    t.clearReferences.IsWritten := by
  obtain ⟨base, based, layered⟩ := parseType_eq_ok_iff.mp read
  obtain ⟨words, split, taken⟩ := exists_words_takeBase (Token.scan s)
  -- Only the layers can hold a const that is not written, for a base is no reference.
  have written : base.IsWritten := by
    apply isWritten_baseType based
    intro w member
    rw [taken, baseWords, List.mem_filter] at member
    obtain ⟨found, plain⟩ := member
    have scanned : .word w ∈ Token.scan s := by
      rw [split]
      exact List.mem_append_left _ (List.mem_map_of_mem found)
    exact ⟨Token.isQualified_of_mem_scan scanned, by simpa using plain⟩
  apply isWritten_addLayers layered
  rwa [clearReferences_eq_self written.hasConstReference]

/-- A type that was read is read again from its spelling, without const on references. To read and
spell once more changes nothing, and the base of such a type is in words. -/
theorem parseType_spelling_of_parseType {s : String} {t : SemanticType}
    (read : parseType s = .ok t) :
    parseType t.spelling = .ok t.clearReferences ∧
      (t.hasConstReference = false → parseType t.spelling = .ok t) ∧
      (∀ again, parseType t.spelling = .ok again → again.spelling = t.spelling) ∧
      t.base.IsInWords := by
  have written := isWritten_of_parseType read
  have reread : parseType t.spelling = .ok t.clearReferences := by
    rw [← spelling_clearReferences]
    exact written.parseType_spelling
  refine ⟨reread, ?_, ?_, ?_⟩
  · intro none
    rw [reread, clearReferences_eq_self none]
  · intro again same
    rw [reread] at same
    cases same
    exact spelling_clearReferences t
  · rw [← base_clearReferences]
    exact written.isInWords_base

/-- A type with const on a pointer, on a reference and behind its base. -/
theorem parseType_spelling_constReference :
    let t : SemanticType := .pointer (.reference (.named "::made::Up" true) true) true
    parseType "struct ::made::Up const & const* const volatile" = .ok t ∧
      t.spelling = "const ::made::Up&* const" ∧
        parseType t.spelling =
          .ok (.pointer (.reference (.named "::made::Up" true) false) true) ∧
            t.base.IsInWords := by
  intro t
  have read : parseType "struct ::made::Up const & const* const volatile" = .ok t := by
    rfl
  obtain ⟨reread, _, _, based⟩ := parseType_spelling_of_parseType read
  exact ⟨read, by decide +kernel, reread, based⟩

end SemanticType
end Understudy.Cpp
