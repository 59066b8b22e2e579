import Understudy.Cpp.Spelling
import Understudy.Document.Record

/-! Types are read back from their spellings and records.

Main statement: a type whose base is written in words comes back from either form as it was, so no
two such types are spelled alike. The tokens of a spelling are those of its base and one mark for
each layer, since no mark can run into the word before it.
-/

set_option autoImplicit false

namespace Understudy.Cpp

namespace Token

/-! ## Where words end -/

/-- A character that ends any word before it and belongs to no scope mark. -/
def EndsWord (c : Char) : Prop :=
  c ≠ ':' ∧ isWordStart c = false ∧ Text.isWordChar c = false

theorem endsWord_star : EndsWord '*' := ⟨by decide, by decide, by decide +kernel⟩

theorem endsWord_ampersand : EndsWord '&' := ⟨by decide, by decide, by decide +kernel⟩

theorem endsWord_space : EndsWord ' ' := ⟨by decide, by decide, by decide +kernel⟩

theorem isWordChar_colon : Text.isWordChar ':' = false := by decide +kernel

theorem endWord_append (run : List Char) (first later : List Token) :
    endWord run (first ++ later) = endWord run first ++ later := by
  unfold endWord
  split <;> rfl

theorem scanFrom_cons {c : Char} {rest : List Char}
    (plain : ∀ d later, c = ':' → rest = ':' :: d :: later → isWordStart d = false)
    (run : List Char) :
    scanFrom run (c :: rest) =
      if c == '*' then endWord run (.star :: scanFrom [] rest)
      else if c == '&' then endWord run (.ampersand :: scanFrom [] rest)
      else if isWordStart c || (!run.isEmpty && Text.isWordChar c) then scanFrom (c :: run) rest
      else endWord run (scanFrom [] rest) := by
  rw [scanFrom.eq_def]
  split
  next none => cases none
  next run' d later same =>
    -- A scope mark before anything else ends the word like any other character.
    cases same
    rw [if_neg (by simp [plain d later rfl rfl]), isWordChar_colon, Bool.and_false]
    rfl
  next same =>
    cases same
    rfl

theorem scanFrom_scope {c : Char} (starts : isWordStart c = true) (run rest : List Char) :
    scanFrom run (':' :: ':' :: c :: rest) = scanFrom (c :: ':' :: ':' :: run) rest := by
  rw [scanFrom, if_pos starts]

theorem plain_append {c d : Char} {later rest : List Char} (ends : EndsWord c)
    (unscoped : ∀ e more, d = ':' → later = ':' :: e :: more → False) :
    ∀ e more, d = ':' → later ++ c :: rest = ':' :: e :: more → isWordStart e = false := by
  intro e more colon same
  match later, unscoped, same with
  | [], _, same => exact absurd (List.cons.inj same).1 ends.1
  | [_], _, same =>
    obtain ⟨_, same⟩ := List.cons.inj same
    rw [← (List.cons.inj same).1]
    exact ends.2.1
  | d' :: e' :: more', unscoped, same =>
    exact (unscoped e' more' colon (by rw [(List.cons.inj same).1])).elim

theorem scanFrom_append {c : Char} (ends : EndsWord c) (run front rest : List Char) :
    scanFrom run (front ++ c :: rest) = scanFrom run front ++ scanFrom [] (c :: rest) := by
  fun_induction scanFrom run front with
  | case1 run =>
    obtain ⟨noColon, starts, continues⟩ := ends
    have plain : ∀ d later, c = ':' → rest = ':' :: d :: later → isWordStart d = false :=
      fun _ _ colon => absurd colon noColon
    rw [List.nil_append, scanFrom_cons plain, scanFrom_cons plain, ← endWord_append]
    simp only [starts, continues, Bool.and_false, Bool.or_false, Bool.false_eq_true, if_false,
      List.nil_append]
    split
    next => rfl
    next => split <;> rfl
  | case2 run d later begins ih =>
    rw [← ih]
    exact scanFrom_scope begins run (later ++ c :: rest)
  | case3 run d later other ih =>
    rw [← endWord_append, ← ih]
    simp [scanFrom, other]
  | case4 run d later unscoped star ih =>
    rw [List.cons_append, scanFrom_cons (plain_append ends unscoped), if_pos star, ih,
      ← endWord_append]
    rfl
  | case5 run d later unscoped noStar ampersand ih =>
    rw [List.cons_append, scanFrom_cons (plain_append ends unscoped), if_neg noStar,
      if_pos ampersand, ih, ← endWord_append]
    rfl
  | case6 run d later unscoped noStar noAmpersand goesOn ih =>
    rw [List.cons_append, scanFrom_cons (plain_append ends unscoped), if_neg noStar,
      if_neg noAmpersand, if_pos goesOn, ih]
  | case7 run d later unscoped noStar noAmpersand other ih =>
    rw [List.cons_append, scanFrom_cons (plain_append ends unscoped), if_neg noStar,
      if_neg noAmpersand, if_neg other, ih, ← endWord_append]

theorem scan_append {front back : String} {c : Char} (ends : EndsWord c)
    (begins : back.toList.head? = some c) : scan (front ++ back) = scan front ++ scan back := by
  obtain ⟨rest, same⟩ := List.head?_eq_some_iff.mp begins
  unfold scan
  rw [String.toList_append, same, scanFrom_append ends]

theorem scan_append_space (front back : String) :
    scan (front ++ " " ++ back) = scan front ++ scan back := by
  have passed : scan (" " ++ back) = scan back := by
    unfold scan
    rw [String.toList_append]
    exact scanFrom_cons (fun _ _ colon => absurd colon endsWord_space.1) []
  rw [String.append_assoc, scan_append endsWord_space (by simp), passed]

/-! ## Names -/

def isWord : List Char → Bool
  | [] => false
  | c :: rest => isWordStart c && rest.all Text.isWordChar

inductive IsChain : List Char → Prop where
  | single {w : List Char} : isWord w = true → IsChain w
  | cons {w rest : List Char} : isWord w = true → IsChain rest → IsChain (w ++ scopeMark ++ rest)

/-- Words with scope marks between them, and possibly one before them. -/
def IsQualified (name : String) : Prop :=
  IsChain name.toList ∨ ∃ rest, name.toList = scopeMark ++ rest ∧ IsChain rest

theorem IsChain.starts {s : List Char} (chain : IsChain s) :
    ∃ c rest, s = c :: rest ∧ isWordStart c = true := by
  have first {w : List Char} (word : isWord w = true) :
      ∃ c rest, w = c :: rest ∧ isWordStart c = true := by
    cases w with
    | nil => cases word
    | cons c rest => exact ⟨c, rest, rfl, (Bool.and_eq_true_iff.mp word).1⟩
  cases chain with
  | single word => exact first word
  | cons word _ =>
    obtain ⟨c, rest, rfl, starts⟩ := first word
    exact ⟨c, _, rfl, starts⟩

theorem ne_of_isWordChar {c d : Char} (word : Text.isWordChar c = true)
    (other : Text.isWordChar d = false) : c ≠ d := by
  rintro rfl
  rw [word] at other
  cases other

theorem scanFrom_wordChar {c : Char} (word : Text.isWordChar c = true) {run : List Char}
    (goesOn : run ≠ []) (rest : List Char) : scanFrom run (c :: rest) = scanFrom (c :: run) rest := by
  have plain : ∀ d later, c = ':' → rest = ':' :: d :: later → isWordStart d = false :=
    fun _ _ colon => absurd colon (ne_of_isWordChar word isWordChar_colon)
  rw [scanFrom_cons plain]
  simp [ne_of_isWordChar word endsWord_star.2.2, ne_of_isWordChar word endsWord_ampersand.2.2,
    word, goesOn]

theorem scanFrom_wordChars {w : List Char} (word : w.all Text.isWordChar = true) {run : List Char}
    (goesOn : run ≠ []) (rest : List Char) :
    scanFrom run (w ++ rest) = scanFrom (w.reverse ++ run) rest := by
  induction w generalizing run with
  | nil => rfl
  | cons c w ih =>
    obtain ⟨first, others⟩ := Bool.and_eq_true_iff.mp word
    rw [List.cons_append, scanFrom_wordChar first goesOn, ih others (by simp)]
    simp

theorem scanFrom_wordStart {c : Char} (starts : isWordStart c = true) (run rest : List Char) :
    scanFrom run (c :: rest) = scanFrom (c :: run) rest := by
  have apart {d : Char} (other : isWordStart d = false) : c ≠ d := by
    rintro rfl
    rw [starts] at other
    cases other
  have plain : ∀ d later, c = ':' → rest = ':' :: d :: later → isWordStart d = false :=
    fun _ _ colon => absurd colon (apart (by decide))
  rw [scanFrom_cons plain]
  simp [apart endsWord_star.2.1, apart endsWord_ampersand.2.1, starts]

theorem scanFrom_word {w : List Char} (word : isWord w = true) (run rest : List Char) :
    scanFrom run (w ++ rest) = scanFrom (w.reverse ++ run) rest := by
  cases w with
  | nil => cases word
  | cons c w =>
    obtain ⟨starts, others⟩ := Bool.and_eq_true_iff.mp word
    rw [List.cons_append, scanFrom_wordStart starts, scanFrom_wordChars others (by simp)]
    simp

theorem scanFrom_scopeMark {rest : List Char} (chain : IsChain rest) (run : List Char) :
    scanFrom run (scopeMark ++ rest) = scanFrom (scopeMark ++ run) rest := by
  obtain ⟨c, later, rfl, starts⟩ := chain.starts
  change scanFrom run (':' :: ':' :: c :: later) = scanFrom (':' :: ':' :: run) (c :: later)
  rw [scanFrom_scope starts, scanFrom_wordStart starts]

theorem IsChain.scanFrom {s : List Char} (chain : IsChain s) (run : List Char) :
    scanFrom run s = endWord (s.reverse ++ run) [] := by
  induction chain generalizing run with
  | @single w word =>
    have read := scanFrom_word word run []
    rwa [List.append_nil] at read
  | cons word chain ih =>
    rw [List.append_assoc, scanFrom_word word, scanFrom_scopeMark chain, ih]
    simp [scopeMark]

theorem IsQualified.scan {name : String} (qualified : IsQualified name) :
    scan name = [.word name] := by
  have read {s : List Char} (run : List Char) (some : s ≠ [])
      (whole : (s.reverse ++ run).reverse = name.toList) :
      endWord (s.reverse ++ run) [] = [.word name] := by
    unfold endWord ofWord
    rw [whole, String.ofList_toList, if_neg (by simp [some])]
  unfold Token.scan
  rcases qualified with chain | ⟨rest, led, chain⟩
  · obtain ⟨c, later, same, _⟩ := chain.starts
    rw [chain.scanFrom, read [] (by simp [same]) (by simp)]
  · obtain ⟨c, later, same, _⟩ := chain.starts
    rw [led, scanFrom_scopeMark chain, chain.scanFrom,
      read _ (by simp [same]) (by simp [led, scopeMark])]

theorem isQualified_of_isWord {name : String} (word : isWord name.toList = true) :
    IsQualified name := .inl (.single word)

end Token

/-! ## The two forms of a type -/

namespace SemanticType

/-- Types that are spelled in words: a base of builtin words, or of a qualified name that is no
word with a meaning of its own, under pointers and references. References are never const. -/
inductive IsWritten : SemanticType → Prop where
  | primitive {words : List String} (isConst : Bool) :
      words ≠ [] → (∀ w ∈ words, w ∈ primitiveWords) →
        IsWritten (.primitive (" ".intercalate words) isConst)
  | named {name : String} (isConst : Bool) :
      Token.IsQualified name → name ∉ primitiveWords → name ∉ qualifierWords →
        name ∉ elaboratedWords → IsWritten (.named name isConst)
  | pointer {inner : SemanticType} (isConst : Bool) :
      IsWritten inner → IsWritten (.pointer inner isConst)
  | reference {inner : SemanticType} : IsWritten inner → IsWritten (.reference inner false)

def base : SemanticType → SemanticType
  | .pointer inner _ | .reference inner _ => inner.base
  | t => t

def layers : SemanticType → List Token
  | .pointer inner isConst =>
    inner.layers ++ .star :: (if isConst then [.word "const"] else [])
  | .reference inner _ => inner.layers ++ [.ampersand]
  | _ => []

/-- The const of a type record; one that does not hold may be left out. -/
def constEntry (explicit isConst : Bool) : Entries :=
  if explicit || isConst then [("const", .bool isConst)] else []

/-- A type as a record that tags a base or wraps another type. Which consts are written although
they do not hold is told layer by layer. -/
def record (explicit : SemanticType → Bool) : SemanticType → Value
  | .primitive name c =>
    .object (("primitive", .text name) :: constEntry (explicit (.primitive name c)) c)
  | .named name c => .object (("named", .text name) :: constEntry (explicit (.named name c)) c)
  | .misnamed builtin name c =>
    .object ((if builtin then "primitive" else "named", name) ::
      constEntry (explicit (.misnamed builtin name c)) c)
  | .pointer inner c =>
    .object (("pointer", inner.record explicit) :: constEntry (explicit (.pointer inner c)) c)
  | .reference inner c =>
    .object (("reference", inner.record explicit) :: constEntry (explicit (.reference inner c)) c)

/-! ## Reading spellings -/

theorem scan_const : Token.scan " const" = [.word "const"] := by decide +kernel

theorem scan_spelling (t : SemanticType) :
    Token.scan t.spelling = Token.scan t.base.spelling ++ t.layers := by
  induction t with
  | primitive => simp [base, layers]
  | named => simp [base, layers]
  | misnamed => simp [base, layers]
  | pointer inner isConst ih =>
    have marked : Token.scan (inner.spelling ++ "*") = Token.scan inner.spelling ++ [.star] :=
      Token.scan_append Token.endsWord_star rfl
    cases isConst with
    | false => simp [spelling, base, layers, marked, ih]
    | true =>
      simp only [spelling, if_true, base, layers]
      rw [Token.scan_append Token.endsWord_space rfl, marked, ih, scan_const]
      simp
  | reference inner isConst ih =>
    have marked : Token.scan (inner.spelling ++ "&") = Token.scan inner.spelling ++ [.ampersand] :=
      Token.scan_append Token.endsWord_ampersand rfl
    simp [spelling, base, layers, marked, ih]

theorem takeBase_layers (t : SemanticType) {later : List Token}
    (ends : takeBase later = ([], false, later)) :
    takeBase (t.layers ++ later) = ([], false, t.layers ++ later) := by
  induction t generalizing later with
  | primitive => exact ends
  | named => exact ends
  | misnamed => exact ends
  | pointer inner isConst ih =>
    rw [layers, List.append_assoc]
    exact ih rfl
  | reference inner isConst ih =>
    rw [layers, List.append_assoc]
    exact ih rfl

theorem takeBase_words {words : List String} {later : List Token} {isConst : Bool}
    (plain : ∀ w ∈ words, w ∉ qualifierWords ∧ w ∉ elaboratedWords)
    (ends : takeBase later = ([], isConst, later)) :
    takeBase (words.map .word ++ later) = (words, isConst, later) := by
  induction words with
  | nil => exact ends
  | cons w rest ih =>
    obtain ⟨first, others⟩ := List.forall_mem_cons.mp plain
    simp [takeBase, ih others, first]

theorem takeBase_base {words : List String} (isConst : Bool)
    (plain : ∀ w ∈ words, w ∉ qualifierWords ∧ w ∉ elaboratedWords) (t : SemanticType) :
    takeBase ((if isConst then [.word "const"] else []) ++ words.map .word ++ t.layers) =
      (words, isConst, t.layers) := by
  have ends : takeBase t.layers = ([], false, t.layers) := by
    have done : takeBase [] = ([], false, []) := rfl
    have read := takeBase_layers t done
    rwa [List.append_nil] at read
  have taken := takeBase_words plain ends
  cases isConst with
  | false => exact taken
  | true => simp [takeBase, taken, qualifierWords]

theorem addLayers_append (text : String) (t : SemanticType) (front back : List Token) :
    addLayers text t (front ++ back) =
      (addLayers text t front).bind (addLayers text · back) := by
  induction front generalizing t with
  | nil => rfl
  | cons token rest ih =>
    cases token with
    | star => exact ih _
    | ampersand => exact ih _
    | word w =>
      simp only [List.cons_append, addLayers]
      split
      next => exact ih _
      next =>
        split
        next => exact ih _
        next => rfl

theorem IsWritten.addLayers_base {t : SemanticType} (written : t.IsWritten) (text : String) :
    addLayers text t.base t.layers = .ok t := by
  induction written with
  | primitive => rfl
  | named => rfl
  | pointer isConst written ih =>
    rw [base, layers, addLayers_append, ih]
    cases isConst <;> rfl
  | reference written ih =>
    rw [base, layers, addLayers_append, ih]
    rfl

theorem scan_intercalate {words : List String} (some : words ≠ [])
    (qualified : ∀ w ∈ words, Token.IsQualified w) :
    Token.scan (" ".intercalate words) = words.map .word := by
  induction words with
  | nil => exact absurd rfl some
  | cons w rest ih =>
    obtain ⟨first, others⟩ := List.forall_mem_cons.mp qualified
    cases rest with
    | nil =>
      rw [String.intercalate_singleton, first.scan]
      rfl
    | cons next rest =>
      rw [String.intercalate_cons_cons, Token.scan_append_space, first.scan, ih (by simp) others]
      rfl

theorem scan_base (isConst : Bool) (name : String) :
    Token.scan ((if isConst then "const " else "") ++ name) =
      (if isConst then [.word "const"] else []) ++ Token.scan name := by
  cases isConst with
  | false => rw [if_neg (by simp), if_neg (by simp), String.empty_append, List.nil_append]
  | true =>
    have qualified : Token.IsQualified "const" := Token.isQualified_of_isWord (by decide +kernel)
    rw [if_pos rfl, if_pos rfl, show "const " = "const" ++ " " from rfl, Token.scan_append_space,
      qualified.scan]

theorem plain_of_builtin {w : String} (builtin : w ∈ primitiveWords) :
    Token.IsQualified w ∧ w ∉ qualifierWords ∧ w ∉ elaboratedWords := by
  have all : ∀ w ∈ primitiveWords,
      Token.isWord w.toList = true ∧ w ∉ qualifierWords ∧ w ∉ elaboratedWords := by
    decide +kernel
  obtain ⟨word, plain⟩ := all w builtin
  exact ⟨Token.isQualified_of_isWord word, plain⟩

theorem IsWritten.words {t : SemanticType} (written : t.IsWritten) (text : String) :
    ∃ words isConst, words ≠ [] ∧ (∀ w ∈ words, w ∉ qualifierWords ∧ w ∉ elaboratedWords) ∧
      Token.scan t.base.spelling =
        (if isConst then [.word "const"] else []) ++ words.map .word ∧
      baseType text words isConst = .ok t.base := by
  induction written with
  | @primitive words isConst some builtin =>
    refine ⟨words, isConst, some, fun w member => (plain_of_builtin (builtin w member)).2, ?_, ?_⟩
    · change Token.scan ((if isConst then "const " else "") ++ " ".intercalate words) = _
      rw [scan_base, scan_intercalate some fun w member => (plain_of_builtin (builtin w member)).1]
    · have primitive : isPrimitiveSpelling words = true := by
        simpa [isPrimitiveSpelling, some] using builtin
      simp [baseType, base, some, primitive]
  | @named name isConst qualified unbuiltin unqualifying unelaborated =>
    refine ⟨[name], isConst, by simp, by simp [unqualifying, unelaborated], ?_, ?_⟩
    · change Token.scan ((if isConst then "const " else "") ++ name) = _
      rw [scan_base, qualified.scan]
      rfl
    · simp [baseType, base, isPrimitiveSpelling, unbuiltin]
  | pointer _ _ ih => exact ih
  | reference _ ih => exact ih

theorem IsWritten.parseType_spelling {t : SemanticType} (written : t.IsWritten) :
    parseType t.spelling = .ok t := by
  obtain ⟨words, isConst, some, plain, scanned, based⟩ := written.words t.spelling
  have tokens : Token.scan t.spelling =
      (if isConst then [.word "const"] else []) ++ words.map .word ++ t.layers := by
    rw [scan_spelling, scanned]
  unfold parseType
  simp only [tokens, takeBase_base isConst plain, based]
  rw [if_neg (by simp [some])]
  exact written.addLayers_base t.spelling

/-! ## Reading records -/

theorem get?_constEntry {key : String} (other : key ≠ "const") (explicit isConst : Bool) :
    Assoc.get? (constEntry explicit isConst) key = none := by
  unfold constEntry
  split
  next => simp [Assoc.get?, Ne.symm other]
  next => rfl

theorem flagUnder_constEntry (explicit isConst : Bool) {key : String} (tag : Value)
    (other : key ≠ "const") :
    Document.flagUnder ((key, tag) :: constEntry explicit isConst) "const" = isConst := by
  unfold Document.flagUnder constEntry
  cases explicit <;> cases isConst <;> simp [Assoc.get?, other, Value.holds]

theorem IsWritten.readType_record {t : SemanticType} (written : t.IsWritten)
    (explicit : SemanticType → Bool) :
    Document.readType (t.record explicit) = .ok t := by
  -- The tag comes first in the record, and no other tag is in it.
  induction written with
  | primitive isConst =>
    simp [record, Document.readType, Assoc.get?, Document.baseOf, flagUnder_constEntry]
  | named isConst =>
    simp [record, Document.readType, Assoc.get?, get?_constEntry, Document.baseOf,
      flagUnder_constEntry]
  | pointer isConst _ ih =>
    simp [record, Document.readType, Document.readTypeUnder, Assoc.get?, Assoc.has,
      get?_constEntry, flagUnder_constEntry, ih, Except.map]
  | reference _ ih =>
    simp [record, Document.readType, Document.readTypeUnder, Assoc.get?, Assoc.has,
      get?_constEntry, ih, Except.map]

/-! ## Both forms -/

/-- Spelling and record of a written type are both read as the type itself, so no other written type
is spelled alike. -/
theorem read_written {t : SemanticType} (written : t.IsWritten) :
    parseType t.spelling = .ok t ∧ (∀ explicit, Document.readType (t.record explicit) = .ok t) ∧
      ∀ other : SemanticType, other.IsWritten → other.spelling = t.spelling → other = t := by
  refine ⟨written.parseType_spelling, written.readType_record, ?_⟩
  intro other writtenOther same
  have read := writtenOther.parseType_spelling
  rw [same, written.parseType_spelling] at read
  exact (Except.ok.inj read).symm

def lender : SemanticType :=
  .reference (.pointer (.pointer (.named "::made::Up" true) false) true) false

theorem read_written_lender :
    lender.IsWritten ∧ lender.spelling = "const ::made::Up** const&" ∧
      parseType "const ::made::Up** const&" = .ok lender ∧
        Document.readType (lender.record SemanticType.isIndirect) = .ok lender := by
  have chain : Token.IsChain ("made".toList ++ scopeMark ++ "Up".toList) :=
    .cons (by decide +kernel) (.single (by decide +kernel))
  have qualified : Token.IsQualified "::made::Up" := .inr ⟨_, by decide, chain⟩
  have written : lender.IsWritten :=
    .reference (.pointer true (.pointer false
      (.named true qualified (by decide) (by decide) (by decide))))
  obtain ⟨parsed, recorded, _⟩ := read_written written
  exact ⟨written, by decide +kernel, parsed, recorded _⟩

end SemanticType
end Understudy.Cpp
