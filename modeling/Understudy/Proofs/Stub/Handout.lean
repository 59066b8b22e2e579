import Understudy.Proofs.Stub.ClassBody
import Understudy.Proofs.Stub.Naming

/-! What a header defines and what it hands out.

A method that hands out a double shows in three places: a private member of its class, the function
that is called for it, and the expression that creates the double at first. Main statement: read back
from all lines of a header, with whatever stands before and behind the doubles, the classes that are
defined are those of the doubles, in order and once each, and the three places name the same classes.
-/

set_option autoImplicit false

namespace Understudy

open Understudy.Cpp

/-! ## Accessors are single words -/

def IsUnbroken (s : String) : Prop := ' ' ∉ s.toList

theorem IsUnbroken.append {s t : String} (first : IsUnbroken s) (second : IsUnbroken t) :
    IsUnbroken (s ++ t) := by
  simpa [IsUnbroken] using ⟨first, second⟩

theorem isUnbroken_intercalate {words : List String} (each : ∀ w ∈ words, IsUnbroken w) :
    IsUnbroken ("_".intercalate words) := by
  induction words with
  | nil => simp [IsUnbroken]
  | cons word more ih =>
    obtain ⟨here, others⟩ := List.forall_mem_cons.mp each
    cases more with
    | nil => rwa [String.intercalate_singleton]
    | cons next more =>
      rw [String.intercalate_cons_cons]
      exact (here.append (by simp [IsUnbroken])).append (ih others)

theorem isUnbroken_mangle (s : String) : IsUnbroken (Text.mangle s) := by
  intro blank
  rcases (Text.isFragment_mangle s).drawn _ blank with plain | underscore
  · exact absurd plain (by decide)
  · exact absurd underscore (by decide)

theorem isUnbroken_of_isIdentifier {s : String} (identifier : Text.isIdentifier s.toList = true) :
    IsUnbroken s := by
  unfold IsUnbroken
  cases chars : s.toList with
  | nil => simp
  | cons c rest =>
    rw [chars, Text.isIdentifier, Bool.and_eq_true, List.all_eq_true] at identifier
    intro blank
    rcases List.mem_cons.mp blank with rfl | later
    · exact absurd identifier.1 (by decide)
    · exact absurd (identifier.2 _ later) (by decide)

theorem isUnbroken_methodIdentifier (name : String) : IsUnbroken (Text.methodIdentifier name) := by
  have words : ∀ word ∈ Text.operatorWords, IsUnbroken ("operator_" ++ word.2) := by
    unfold IsUnbroken
    decide +kernel
  unfold Text.methodIdentifier
  split
  next identifier => exact isUnbroken_of_isIdentifier identifier
  next =>
    split
    next word found =>
      obtain ⟨symbol, _, found⟩ := Option.bind_eq_some_iff.mp found
      obtain ⟨before, after, listed, _⟩ := List.lookup_eq_some_iff.mp found
      exact words (symbol, word) (by simp [listed])
    next => exact isUnbroken_mangle name

theorem isUnbroken_mangled (m : Method String) : IsUnbroken m.mangled := by
  refine isUnbroken_intercalate fun word member => ?_
  rcases List.mem_append.mp member with named | const
  · rcases List.mem_cons.mp named with rfl | spelled
    · exact isUnbroken_methodIdentifier m.name
    · obtain ⟨spelling, _, rfl⟩ := List.mem_map.mp spelled
      exact isUnbroken_mangle spelling
  · split at const
    · obtain rfl := List.mem_singleton.mp const
      simp [IsUnbroken]
    · cases const

theorem Accessor.isUnbroken_numbered {name : String} (whole : IsUnbroken name) (n : Nat) :
    IsUnbroken (numbered name n) := by
  refine (whole.append (by simp [IsUnbroken])).append fun blank => ?_
  rw [Nat.toString_eq_repr, Nat.toList_repr] at blank
  exact absurd (Nat.isDigit_of_mem_toDigits (by decide) (by decide) blank) (by decide)

theorem Accessor.isUnbroken_assign (methods : List (Method String)) (used : List String)
    (ms : List (Method String)) : ∀ name ∈ assign methods used ms, IsUnbroken name := by
  induction ms generalizing used with
  | nil => simp [assign]
  | cons m rest ih =>
    unfold assign
    split
    next => exact List.forall_mem_cons.mpr ⟨isUnbroken_methodIdentifier m.name, ih used⟩
    next =>
      refine List.forall_mem_cons.mpr ⟨?_, ih _⟩
      have chosen := firstFree_fresh used m.mangled
      generalize fresh used m.mangled = accessor at chosen ⊢
      cases chosen with
      | plain => exact isUnbroken_mangled m
      | numbered => exact isUnbroken_numbered (isUnbroken_mangled m) _

theorem SymbolTable.isUnbroken_accessor {t : SymbolTable} {lead : Value} {d : Declaration String}
    {s : Stub} (made : t.buildStub lead d = .ok s) {m : InstrumentedMethod} (member : m ∈ s.methods) :
    IsUnbroken m.accessor := by
  have given := List.mem_map_of_mem (f := (·.accessor)) member
  rw [map_accessor_methods made] at given
  exact Accessor.isUnbroken_assign _ _ _ m.accessor given

/-! ## Words and blocks of lines -/

theorem Text.cutFirst_char_eq_some {c : Char} {s before after : List Char} :
    cutFirst [c] s = some (before, after) ↔ s = before ++ c :: after ∧ c ∉ before := by
  constructor
  · intro cut
    exact ⟨by simpa using cutFirst_append cut, not_mem_of_cutFirst_char cut⟩
  · rintro ⟨rfl, free⟩
    induction before with
    | nil => simp [cutFirst]
    | cons d rest ih =>
      rw [List.mem_cons, not_or] at free
      obtain ⟨apart, free⟩ := free
      simp [cutFirst, apart, ih free]

def cutLastWord? (s : String) : Option (String × String) :=
  (Text.cutFirst [' '] s.toList.reverse).map fun (word, front) =>
    (String.ofList front.reverse, String.ofList word.reverse)

theorem cutLastWord?_eq_some {s front word : String} :
    cutLastWord? s = some (front, word) ↔ s = front ++ " " ++ word ∧ IsUnbroken word := by
  unfold cutLastWord?
  simp only [Option.map_eq_some_iff, Prod.exists, Prod.mk.injEq, Text.cutFirst_char_eq_some]
  constructor
  · rintro ⟨back, rest, ⟨same, free⟩, rfl, rfl⟩
    have chars := congrArg List.reverse same
    rw [List.reverse_reverse] at chars
    exact ⟨by simp [← String.toList_inj, chars], by simpa [IsUnbroken] using free⟩
  · rintro ⟨rfl, free⟩
    refine ⟨word.toList.reverse, front.toList.reverse, ⟨by simp, ?_⟩, by simp, by simp⟩
    simpa [IsUnbroken] using free

def blocksIn (opens : String → Bool) (last : String) : List String → List (String × List String)
  | [] => []
  | line :: rest =>
    if opens line then (line, rest.takeWhile (· != last)) :: blocksIn opens last rest
    else blocksIn opens last rest

section Blocks

variable {opens : String → Bool} {first last : String} {front inner rest : List String}

theorem blocksIn_append (none : ∀ line ∈ front, opens line = false) :
    blocksIn opens last (front ++ rest) = blocksIn opens last rest := by
  induction front with
  | nil => rfl
  | cons line more ih =>
    obtain ⟨here, others⟩ := List.forall_mem_cons.mp none
    rw [List.cons_append, blocksIn, here, if_neg Bool.false_ne_true, ih others]

theorem blocksIn_block (opened : opens first = true) (none : ∀ line ∈ inner, opens line = false)
    (inside : last ∉ inner) (flush : opens last = false) :
    blocksIn opens last (first :: (inner ++ last :: rest)) =
      (first, inner) :: blocksIn opens last rest := by
  have taken : ∀ line ∈ inner, (line != last) = true := by
    intro line member
    rw [bne_iff_ne]
    rintro rfl
    exact inside member
  rw [blocksIn, if_pos opened, blocksIn_append none, blocksIn, flush, if_neg Bool.false_ne_true,
    List.takeWhile_append_of_pos taken, List.takeWhile_cons_of_neg (by simp), List.append_nil]

theorem blocksIn_flatMap {α : Type} {l : List α} {f : α → List String}
    {g : α → List (String × List String)} (rest : List String)
    (each : ∀ a ∈ l, ∀ more, blocksIn opens last (f a ++ more) = g a ++ blocksIn opens last more) :
    blocksIn opens last (l.flatMap f ++ rest) = l.flatMap g ++ blocksIn opens last rest := by
  induction l with
  | nil => rfl
  | cons a l ih =>
    obtain ⟨here, others⟩ := List.forall_mem_cons.mp each
    rw [List.flatMap_cons, List.flatMap_cons, List.append_assoc, List.append_assoc, here,
      ih others]

end Blocks

def BeginIn (cs : List Char) (lines : List String) : Prop :=
  ∀ line ∈ lines, ∀ c ∈ line.toList.head?, c ∈ cs

section Begin

variable {cs : List Char}

@[simp] theorem beginIn_nil : BeginIn cs [] := by simp [BeginIn]

@[simp] theorem beginIn_cons {line : String} {rest : List String} :
    BeginIn cs (line :: rest) ↔ (∀ c ∈ line.toList.head?, c ∈ cs) ∧ BeginIn cs rest := by
  simp [BeginIn]

@[simp] theorem beginIn_append {first rest : List String} :
    BeginIn cs (first ++ rest) ↔ BeginIn cs first ∧ BeginIn cs rest := by
  simp only [BeginIn, List.forall_mem_append]

@[simp] theorem beginIn_map {α : Type} {l : List α} {f : α → String} :
    BeginIn cs (l.map f) ↔ ∀ a ∈ l, ∀ c ∈ (f a).toList.head?, c ∈ cs := by
  simp [BeginIn]

@[simp] theorem beginIn_flatMap {α : Type} {l : List α} {f : α → List String} :
    BeginIn cs (l.flatMap f) ↔ ∀ a ∈ l, BeginIn cs (f a) := by
  simp only [BeginIn, List.mem_flatMap, forall_exists_index, and_imp]
  exact ⟨fun each a member line => each line a member, fun each line a member => each a member line⟩

theorem AreIndented.beginIn {lines : List String} (indented : AreIndented lines)
    (blank : ' ' ∈ cs) : BeginIn cs lines := by
  intro line member c first
  rw [indented line member] at first
  obtain rfl := Option.mem_some_iff.mp first
  exact blank

theorem BeginIn.mono {more : List Char} {lines : List String} (begin_ : BeginIn cs lines)
    (sub : cs ⊆ more) : BeginIn more lines :=
  fun line member c first => sub (begin_ line member c first)

theorem BeginIn.begins_eq_false {lines : List String} (begin_ : BeginIn cs lines) {c : Char}
    {front : String} (start : front.toList.head? = some c) (other : c ∉ cs) :
    ∀ line ∈ lines, begins front line = false := by
  intro line member
  refine Understudy.begins_eq_false (by rintro none; simp [none] at start) fun same => other ?_
  exact begin_ line member c (by rw [same, start]; rfl)

theorem BeginIn.filterMap_between?_eq_nil {lines : List String} (begin_ : BeginIn cs lines) {c : Char}
    {front : String} (back : String) (start : front.toList.head? = some c) (other : c ∉ cs) :
    lines.filterMap (between? front back) = [] := by
  refine List.filterMap_eq_nil_iff.mpr fun line member => ?_
  refine between?_of_head? (by rintro none; simp [none] at start) fun same => other ?_
  exact begin_ line member c (by rw [same, start]; rfl)

end Begin

/-! ## What lines define and hand out -/

def definitionsIn (lines : List String) : List String :=
  lines.filterMap (between? "class " " \x7b")

def privatesIn (lines : List String) : List (List String) :=
  (blocksIn (· == "private:") "\x7d;" lines).map (·.2)

def functionsIn (lines : List String) : List (String × List String) :=
  blocksIn (begins "inline ") "\x7d" lines

theorem BeginIn.definitionsIn_eq_nil {cs : List Char} {lines : List String}
    (begin_ : BeginIn cs lines) (other : 'c' ∉ cs) : definitionsIn lines = [] :=
  begin_.filterMap_between?_eq_nil _ rfl other

/-- A member that keeps a double: the accessor in its name, and the class of the double. -/
def keeper? (line : String) : Option (String × String) := do
  let (type, name) ← (between? (indentation ++ "mutable ") ";" line).bind cutLastWord?
  return (← between? "stub_nested_" "" name, ← between? "" "*" type)

/-- A statement that creates a double for a member. -/
def creation? (line : String) : Option (String × String) := do
  let (name, value) ← Text.cutFirst [' '] (← between? twice ";" line).toList
  return (← between? "stub_nested_" "" (String.ofList name),
    ← between? "= new " "" (String.ofList value))

/-- A function that looks at such a member first: the accessor, and what stands between the beginning
of the function and its name. -/
def handing? (f : String × List String) : Option (String × String) := do
  let accessor ← between? (indentation ++ "if (stub_nested_") " == 0) \x7b" (← f.2.head?)
  return (accessor, ← between? "inline " ("::StubNested_" ++ accessor ++ "() const \x7b") f.1)

def keepersIn (lines : List String) : List (List (String × String)) :=
  (privatesIn lines).map fun section_ => section_.filterMap keeper?

def creationsIn (lines : List String) : List (String × String) :=
  (functionsIn lines).flatMap fun f => f.2.filterMap creation?

def handingsIn (lines : List String) : List (String × String) :=
  (functionsIn lines).filterMap handing?

theorem keeper?_eq_some {line accessor name : String} :
    keeper? line = some (accessor, name) ↔
      line = indentation ++ "mutable " ++ (name ++ "* " ++ ("stub_nested_" ++ accessor)) ++ ";" ∧
        IsUnbroken accessor := by
  have whole : IsUnbroken ("stub_nested_" ++ accessor) ↔ IsUnbroken accessor := by
    simp [IsUnbroken]
  unfold keeper?
  simp only [Option.bind_eq_bind, Option.bind_eq_some_iff, Option.pure_def, Option.some.injEq,
    Prod.mk.injEq, Prod.exists, between?_eq_some, cutLastWord?_eq_some]
  constructor
  · rintro ⟨_, _, ⟨_, rfl, rfl, unbroken⟩, _, rfl, _, rfl, rfl, rfl⟩
    refine ⟨by simp [String.append_assoc], ?_⟩
    simpa [IsUnbroken] using unbroken
  · rintro ⟨rfl, unbroken⟩
    refine ⟨name ++ "*", "stub_nested_" ++ accessor, ⟨_, rfl, ?_, whole.mpr unbroken⟩,
      accessor, by simp, name, by simp, rfl, rfl⟩
    simp [← String.toList_inj]

theorem creation?_eq_some {line accessor name : String} :
    creation? line = some (accessor, name) ↔
      line = twice ++ ("stub_nested_" ++ accessor ++ " = new " ++ name) ++ ";" ∧
        IsUnbroken accessor := by
  unfold creation?
  simp only [Option.bind_eq_bind, Option.bind_eq_some_iff, Option.pure_def, Option.some.injEq,
    Prod.mk.injEq, Prod.exists, between?_eq_some, Text.cutFirst_char_eq_some]
  constructor
  · rintro ⟨text, rfl, word, value, ⟨cut, unbroken⟩, _, named, _, created, rfl, rfl⟩
    have chars : text = String.ofList word ++ " " ++ String.ofList value := by
      simp [← String.toList_inj, cut]
    have free : ' ' ∉ (String.ofList word).toList := by simpa using unbroken
    rw [named] at free chars
    rw [created] at chars
    refine ⟨by simp [chars, ← String.toList_inj], ?_⟩
    simpa [IsUnbroken] using free
  · rintro ⟨rfl, unbroken⟩
    refine ⟨_, rfl, ("stub_nested_" ++ accessor).toList, ("= new " ++ name).toList, ⟨by simp, ?_⟩,
      accessor, ?_, name, ?_, rfl, rfl⟩
    rotate_left
    · rw [String.ofList_toList, String.append_empty]
    · rw [String.ofList_toList, String.append_empty]
    simpa [IsUnbroken] using unbroken

theorem keeper?_eq_none {front word : String} (unbroken : IsUnbroken word)
    (other : between? "stub_nested_" "" word = none) :
    keeper? (front ++ " " ++ word ++ ";") = none := by
  refine Option.eq_none_iff_forall_ne_some.mpr fun ⟨accessor, name⟩ found => ?_
  obtain ⟨same, whole⟩ := keeper?_eq_some.mp found
  have parts : front ++ " " ++ word =
      (indentation ++ "mutable " ++ name ++ "*") ++ " " ++ ("stub_nested_" ++ accessor) := by
    refine (String.append_left_inj ";").mp (same.trans ?_)
    simp [← String.toList_inj]
  have words := (cutLastWord?_eq_some.mpr ⟨parts, by simpa [IsUnbroken] using whole⟩).symm.trans
    (cutLastWord?_eq_some.mpr ⟨rfl, unbroken⟩)
  rw [Option.some.injEq, Prod.mk.injEq] at words
  rw [← words.2] at other
  simp [between?_eq_some.mpr (show "stub_nested_" ++ accessor = "stub_nested_" ++ accessor ++ "" by
    simp)] at other

theorem creation?_eq_none {line : String}
    (other : ¬ (twice ++ "stub_nested_").toList <+: line.toList) : creation? line = none := by
  refine Option.eq_none_iff_forall_ne_some.mpr fun ⟨accessor, name⟩ found => other ?_
  obtain ⟨rfl, _⟩ := creation?_eq_some.mp found
  exact ⟨(accessor ++ " = new " ++ name ++ ";").toList, by simp⟩

theorem handing?_eq_none {head : String} {body : List String}
    (other : ∀ line ∈ body.head?, line.toList[4]? ≠ some 'i') : handing? (head, body) = none := by
  refine Option.eq_none_iff_forall_ne_some.mpr fun ⟨accessor, type⟩ found => ?_
  unfold handing? at found
  obtain ⟨line, first, found⟩ := Option.bind_eq_some_iff.mp found
  obtain ⟨named, shape, _⟩ := Option.bind_eq_some_iff.mp found
  rw [between?_eq_some.mp shape] at first
  exact other _ first (by simp [indentation])

/-! ## Lines of a double -/

def Stub.heading (s : Stub) : String := s.name ++ " : public " ++ s.interface

def handedOut (stubs : List Stub) : List (Stub × InstrumentedMethod) :=
  stubs.flatMap fun s => s.nesting.map (s, ·)

section Lines

variable (symbols : Option SymbolTable) (s : Stub)

def leadingLines : List String :=
  ["// Test double of " ++ s.interface] ++ s.unresolvedBases.map ("// unresolved base: " ++ ·)
    ++ callbacksOf symbols s ++ countersOf symbols s ++ staticsOf symbols s ++ internalOf s

theorem beginIn_leadingLines :
    BeginIn ['/', 'n', 's', 'v', 't', ' ', '\x7d'] (leadingLines symbols s) := by
  have statics (m : InstrumentedMethod) : BeginIn ['/', 'n', 's', 'v', 't', ' ', '\x7d']
      (staticLines symbols m) := by
    unfold staticLines
    split <;> simp [indentation]
  simp [leadingLines, callbacksOf, callbackLines, countersOf, counterLines, staticsOf, statics,
    internalOf, aggregateLines, opening, closing, indentation]

theorem beginIn_publicLines : BeginIn [' '] (publicLines symbols s) := by
  simp [publicLines, MemberFunction.declare, indentation]

theorem beginIn_private :
    BeginIn [' '] (s.ownLines ++ s.nesting.map (nestedLine s)) := by
  simp [Stub.ownLines, nestedLine, aggregateNames, indentation]

theorem beginIn_definitionLines : BeginIn ['i', ' ', '\x7d'] (definitionLines symbols s) := by
  unfold definitionLines
  refine beginIn_flatMap.mpr fun f member => ?_
  have body : BeginIn ['i', ' ', '\x7d'] f.body :=
    (areIndented_body symbols s f member).beginIn (by simp)
  simp [define_eq, body, MemberFunction.opener]

theorem declarationLines_eq : declarationLines symbols s =
    leadingLines symbols s ++ (["class " ++ s.heading ++ " \x7b", "public:"] ++ publicLines symbols s
      ++ "private:" :: (s.ownLines ++ s.nesting.map (nestedLine s) ++ "\x7d;" :: [""])) := by
  have heading : "class " ++ s.heading ++ " \x7b" =
      "class " ++ s.name ++ " : public " ++ s.interface ++ " \x7b" := by
    simp [Stub.heading, ← String.toList_inj]
  rw [declarationLines, classOf_eq, heading, leadingLines]
  simp only [List.append_assoc, List.cons_append, List.nil_append]

theorem definitionsIn_declarationLines :
    definitionsIn (declarationLines symbols s) = [s.heading] := by
  have heading : between? "class " " \x7b" ("class " ++ s.heading ++ " \x7b") = some s.heading :=
    between?_self _ _ _
  have leading := (beginIn_leadingLines symbols s).definitionsIn_eq_nil (by decide)
  have publics := (beginIn_publicLines symbols s).definitionsIn_eq_nil (by decide)
  have privates := (beginIn_private s).definitionsIn_eq_nil (by decide)
  have own : ∀ line ∈ ["public:", "private:", "\x7d;", ""],
      between? "class " " \x7b" line = none := by decide
  simp only [List.forall_mem_cons] at own
  unfold definitionsIn at *
  simp only [declarationLines_eq, List.filterMap_append, leading, publics, privates,
    List.filterMap_cons, heading, own, List.filterMap_nil, List.nil_append, List.append_nil]

theorem privatesIn_declarationLines (rest : List String) :
    privatesIn (declarationLines symbols s ++ rest) =
      (s.ownLines ++ s.nesting.map (nestedLine s)) :: privatesIn rest := by
  let front := leadingLines symbols s
    ++ (["class " ++ s.heading ++ " \x7b", "public:"] ++ publicLines symbols s)
  have split : declarationLines symbols s ++ rest = front ++ "private:" ::
      ((s.ownLines ++ s.nesting.map (nestedLine s)) ++ "\x7d;" :: ([""] ++ rest)) := by
    rw [declarationLines_eq]
    simp only [front, List.append_assoc, List.cons_append, List.nil_append]
  have apart {line : String} (other : line.toList.head? ≠ some 'p') :
      (line == "private:") = false := by
    rw [beq_eq_false_iff_ne]
    rintro rfl
    exact other (by simp)
  have before : ∀ line ∈ front, (line == "private:") = false := by
    intro line member
    rcases List.mem_append.mp member with space | class_
    · refine apart fun start => ?_
      exact absurd (beginIn_leadingLines symbols s line space 'p' start) (by decide)
    · rcases List.mem_append.mp class_ with head | public_
      · simp only [List.mem_cons, List.not_mem_nil, or_false] at head
        rcases head with rfl | rfl
        · exact apart (by simp)
        · decide
      · refine apart fun start => ?_
        exact absurd (beginIn_publicLines symbols s line public_ 'p' start) (by decide)
  have inside : ∀ line ∈ s.ownLines ++ s.nesting.map (nestedLine s), (line == "private:") = false :=
    fun line member => apart fun start =>
      absurd (beginIn_private s line member 'p' start) (by decide)
  have open_ : "\x7d;" ∉ s.ownLines ++ s.nesting.map (nestedLine s) := fun member =>
    absurd (beginIn_private s _ member '\x7d' (by simp)) (by decide)
  unfold privatesIn
  rw [split, blocksIn_append before, blocksIn_block (by simp) inside open_ (by decide),
    blocksIn_append (by decide), List.map_cons]

theorem functionsIn_declarationLines (rest : List String) :
    functionsIn (declarationLines symbols s ++ rest) = functionsIn rest := by
  let cs := ['/', 'n', 's', 'v', 't', ' ', '\x7d', 'c', 'p']
  have leading : BeginIn cs _ := (beginIn_leadingLines symbols s).mono (by decide)
  have publics : BeginIn cs _ := (beginIn_publicLines symbols s).mono (by decide)
  have privates : BeginIn cs _ := (beginIn_private s).mono (by decide)
  have all : BeginIn cs (declarationLines symbols s) := by
    rw [declarationLines_eq]
    refine beginIn_append.mpr ⟨leading, beginIn_append.mpr ⟨beginIn_append.mpr ⟨?_, publics⟩,
      beginIn_cons.mpr ⟨?_, beginIn_append.mpr ⟨privates, ?_⟩⟩⟩⟩
    all_goals simp [cs]
  exact blocksIn_append (all.begins_eq_false rfl (by decide))

theorem functionsIn_definitionLines (rest : List String) :
    functionsIn (definitionLines symbols s ++ rest) =
      (memberFunctions symbols s).map (fun f => (f.opener s.name, f.body)) ++ functionsIn rest := by
  rw [List.map_eq_flatMap]
  refine blocksIn_flatMap rest fun f member more => ?_
  have body : BeginIn [' '] f.body := (areIndented_body symbols s f member).beginIn (by simp)
  have split : f.define s.name ++ more =
      f.opener s.name :: (f.body ++ "\x7d" :: ([""] ++ more)) := by
    rw [define_eq]
    simp only [List.append_assoc, List.cons_append, List.nil_append]
  rw [split, blocksIn_block ?opens (body.begins_eq_false rfl (by decide)) ?inside (by decide),
    blocksIn_append (by decide)]
  case opens => simp [MemberFunction.opener, String.append_assoc]
  case inside => exact fun closes => absurd (body _ closes '\x7d' (by simp)) (by decide)
  rfl

def plainFunctions : List MemberFunction :=
  [constructorOf s, destructorOf s] ++ gettersOf s ++ s.methods.map (overrideOf symbols)
    ++ s.passthrough.map (passthroughOf symbols)

theorem memberFunctions_eq :
    memberFunctions symbols s = plainFunctions symbols s ++ s.nesting.map (nestedOf s) := by
  simp only [memberFunctions, interfaceMembers, plainFunctions, List.append_assoc]

theorem creation?_lines (m : InstrumentedMethod) (statement : Statement) :
    ∀ line ∈ statement.lines m, creation? line = none := by
  suffices ∀ line ∈ statement.lines m, ¬ (twice ++ "stub_nested_").toList <+: line.toList from
    fun line member => creation?_eq_none (this line member)
  cases statement with
  | handOver returns =>
    cases returns <;> simp [Statement.lines, Statement.guarded, twice, indentation]
  | _ => simp [Statement.lines, Statement.guarded, twice, indentation]

theorem plain_of_mem : ∀ f ∈ plainFunctions symbols s,
    handing? (f.opener s.name, f.body) = none ∧ ∀ line ∈ f.body, creation? line = none := by
  have creates (line : String) (other : ¬ (twice ++ "stub_nested_").toList <+: line.toList) :
      creation? line = none := creation?_eq_none other
  unfold plainFunctions gettersOf aggregateNames
  simp only [List.mem_append, List.mem_cons, List.mem_map, List.not_mem_nil, or_false]
  -- One case for each sort of function.
  rintro f ((((rfl | rfl) | ⟨names, _, rfl⟩) | ⟨m, _, rfl⟩) | ⟨p, _, rfl⟩)
  · exact ⟨rfl, by simp [constructorOf]⟩
  · refine ⟨handing?_eq_none ?_, fun line member => creates line ?_⟩
    · cases s.nesting <;> simp [destructorOf, indentation, *]
    · obtain ⟨m, _, rfl⟩ := List.mem_map.mp member
      simp [indentation, twice]
  · refine ⟨handing?_eq_none (by simp [indentation]), fun line member => creates line ?_⟩
    obtain rfl := List.mem_singleton.mp member
    simp [indentation, twice]
  · refine ⟨handing?_eq_none ?_, fun line member => ?_⟩
    · simp [overrideOf, overrideBody, Statement.lines, indentation]
    · obtain ⟨statement, _, member⟩ := List.mem_flatMap.mp member
      exact creation?_lines m statement line member
  · have body : ∀ line ∈ passthroughBody symbols p,
        (indentation ++ "return ").toList <+: line.toList := by
      unfold passthroughBody
      split
      · simp [indentation]
      · split <;> simp [indentation]
    have apart {line : String} (starts : (indentation ++ "return ").toList <+: line.toList) :
        line.toList[4]? = some 'r' := by
      obtain ⟨rest, same⟩ := starts
      simp [← same, indentation]
    refine ⟨handing?_eq_none fun line first => ?_, fun line member => creates line fun starts => ?_⟩
    · rw [apart (body line (List.mem_of_mem_head? first))]
      decide
    · have fifth := apart (body line member)
      obtain ⟨rest, same⟩ := starts
      rw [← same] at fifth
      simp [twice, indentation] at fifth

theorem handing?_nestedOf (m : InstrumentedMethod) :
    handing? ((nestedOf s m).opener s.name, (nestedOf s m).body) =
      some (m.accessor, nestedClass s m ++ "& " ++ s.name) := by
  have guard : between? (indentation ++ "if (stub_nested_") " == 0) \x7b"
      (indentation ++ "if (" ++ (nestedMember m ++ " == 0") ++ ") \x7b") = some m.accessor := by
    rw [between?_eq_some]
    simp [nestedMember, ← String.toList_inj]
  have head : between? "inline " ("::StubNested_" ++ m.accessor ++ "() const \x7b")
      ((nestedOf s m).opener s.name) = some (nestedClass s m ++ "& " ++ s.name) := by
    rw [between?_eq_some]
    simp [MemberFunction.opener, MemberFunction.signature, nestedOf, ← String.toList_inj]
  have first : (nestedOf s m).body.head? =
      some (indentation ++ "if (" ++ (nestedMember m ++ " == 0") ++ ") \x7b") := rfl
  simp only [handing?, first, Option.bind_eq_bind, Option.bind_some, guard, head, Option.pure_def]

theorem creations_nestedOf {m : InstrumentedMethod} (unbroken : IsUnbroken m.accessor) :
    (nestedOf s m).body.filterMap creation? = [(m.accessor, nestedClass s m)] := by
  have created : creation? (twice ++ (nestedMember m ++ " = new " ++ nestedClass s m ++ ";")) =
      some (m.accessor, nestedClass s m) := by
    rw [creation?_eq_some]
    exact ⟨by simp [nestedMember, ← String.toList_inj], unbroken⟩
  have other {line : String} (apart : ¬ (twice ++ "stub_nested_").toList <+: line.toList) :
      creation? line = none := creation?_eq_none apart
  simp only [nestedOf, Statement.guarded, List.cons_append, List.nil_append]
  rw [List.filterMap_cons_none (other (by simp [indentation, twice])),
    List.filterMap_cons_some created, List.filterMap_cons_none (other (by simp [indentation, twice])),
    List.filterMap_cons_none (other (by simp [indentation, twice])), List.filterMap_nil]

theorem handings_memberFunctions :
    ((memberFunctions symbols s).map fun f => (f.opener s.name, f.body)).filterMap handing? =
      s.nesting.map fun m => (m.accessor, nestedClass s m ++ "& " ++ s.name) := by
  have plain : (plainFunctions symbols s).filterMap (fun f => handing? (f.opener s.name, f.body)) =
      [] :=
    List.filterMap_eq_nil_iff.mpr fun f member => (plain_of_mem symbols s f member).1
  rw [List.filterMap_map, memberFunctions_eq, List.filterMap_append, Function.comp_def, plain,
    List.nil_append, List.filterMap_map, ← List.filterMap_eq_map]
  exact List.filterMap_congr fun m _ => handing?_nestedOf s m

theorem creations_memberFunctions (unbroken : ∀ m ∈ s.nesting, IsUnbroken m.accessor) :
    ((memberFunctions symbols s).map fun f => (f.opener s.name, f.body)).flatMap
        (fun f => f.2.filterMap creation?) =
      s.nesting.map fun m => (m.accessor, nestedClass s m) := by
  have plain : (plainFunctions symbols s).flatMap (fun f => f.body.filterMap creation?) = [] :=
    List.flatMap_eq_nil_iff.mpr fun f member =>
      List.filterMap_eq_nil_iff.mpr (plain_of_mem symbols s f member).2
  rw [List.flatMap_map, memberFunctions_eq, List.flatMap_append, plain, List.nil_append,
    List.flatMap_map, List.map_eq_flatMap]
  exact List.flatMap_congr fun m member => creations_nestedOf s (unbroken m member)

theorem keepers_private (unbroken : ∀ m ∈ s.nesting, IsUnbroken m.accessor) :
    (s.ownLines ++ s.nesting.map (nestedLine s)).filterMap keeper? =
      s.nesting.map fun m => (m.accessor, nestedClass s m) := by
  have other (front word : String) (whole : IsUnbroken word)
      (apart : between? "stub_nested_" "" word = none) {line : String}
      (same : line = front ++ " " ++ word ++ ";") : keeper? line = none := by
    rw [same]
    exact keeper?_eq_none whole apart
  have copying : keeper? (indentation ++ s.name ++ "(const " ++ s.name ++ "& other);") = none :=
    other (indentation ++ s.name ++ "(const " ++ s.name ++ "&") "other)" (by simp [IsUnbroken])
      (by decide) (by simp [← String.toList_inj])
  have assigning :
      keeper? (indentation ++ s.name ++ "& operator=(const " ++ s.name ++ "& other);") = none :=
    other (indentation ++ s.name ++ "& operator=(const " ++ s.name ++ "&") "other)"
      (by simp [IsUnbroken]) (by decide) (by simp [← String.toList_inj])
  have aggregates : ∀ names ∈ aggregateNames, keeper? (indentation ++ "mutable " ++ s.internalSpace
      ++ "::" ++ names.1 ++ " " ++ names.2.2 ++ ";") = none := by
    intro names listed
    have member : IsUnbroken names.2.2 ∧ between? "stub_nested_" "" names.2.2 = none := by
      simp only [aggregateNames, List.mem_cons, List.not_mem_nil, or_false] at listed
      rcases listed with rfl | rfl | rfl <;> exact ⟨by simp [IsUnbroken], by decide⟩
    exact keeper?_eq_none member.1 member.2
  have own : s.ownLines.filterMap keeper? = [] := by
    unfold Stub.ownLines
    rw [List.filterMap_append, List.filterMap_cons_none copying, List.filterMap_cons_none assigning,
      List.filterMap_map]
    refine List.append_eq_nil_iff.mpr ⟨by decide, List.filterMap_eq_nil_iff.mpr aggregates⟩
  rw [List.filterMap_append, own, List.nil_append, List.filterMap_map, ← List.filterMap_eq_map]
  refine List.filterMap_congr fun m member => ?_
  rw [Function.comp_apply, Function.comp_apply, keeper?_eq_some]
  exact ⟨by simp [nestedLine, nestedMember, ← String.toList_inj], unbroken m member⟩

end Lines

/-! ## All lines of a header -/

section Header

variable (symbols : Option SymbolTable) (diagnostics : Diagnostics) (guard : String)
  (stubs : List Stub) {headers : List Value} {includes : List String}

theorem beginIn_includeLines (made : includeLines headers = .ok includes) :
    BeginIn ['#'] includes := by
  unfold includeLines at made
  split at made
  next =>
    cases made
    exact beginIn_nil
  next filled =>
    obtain ⟨lines, each, joined⟩ := exists_of_bind_eq_ok made
    cases joined
    have matched := forall₂_of_mapM each
    refine beginIn_append.mpr ⟨?_, by simp⟩
    clear made each filled
    induction matched with
    | nil => exact beginIn_nil
    | cons shown _ ih =>
      refine beginIn_cons.mpr ⟨?_, ih⟩
      split at shown
      next text =>
        cases shown
        unfold Text.includeLine
        split <;> simp
      next => cases shown

def frontLines (diagnostics : Diagnostics) (guard : String) (includes : List String) :
    List String :=
  ["// Generated by declviews. Do not edit."] ++ reportLines diagnostics
    ++ ["", "#ifndef " ++ guard, "#define " ++ guard, ""] ++ includes

def aheadLines (stubs : List Stub) : List String :=
  if stubs.isEmpty then [] else stubs.map (fun s => "class " ++ s.name ++ ";") ++ [""]

theorem headerLines_eq : headerLines symbols diagnostics guard includes stubs =
    frontLines diagnostics guard includes ++ (aheadLines stubs
      ++ (stubs.flatMap (declarationLines symbols) ++ (stubs.flatMap (definitionLines symbols)
        ++ ["#endif // " ++ guard]))) := by
  simp only [headerLines, frontLines, aheadLines, stubLines, List.append_assoc]

theorem beginIn_frontLines (made : includeLines headers = .ok includes) :
    BeginIn ['/', '#'] (frontLines diagnostics guard includes) := by
  have included : BeginIn ['/', '#'] includes := (beginIn_includeLines made).mono (by decide)
  unfold frontLines reportLines
  split <;> simp [included]

theorem beginIn_aheadLines : BeginIn ['c'] (aheadLines stubs) := by
  unfold aheadLines
  split <;> simp

theorem definitionsIn_aheadLines : definitionsIn (aheadLines stubs) = [] := by
  refine List.filterMap_eq_nil_iff.mpr fun line member => between?_eq_none ?_
  rintro name rfl
  unfold aheadLines at member
  split at member
  next => cases member
  next =>
    rcases List.mem_append.mp member with declared | blank
    · obtain ⟨s, _, same⟩ := List.mem_map.mp declared
      have last := congrArg (fun line : String => line.toList.getLast?) same
      simp [List.getLast?_cons, List.getLast?_append] at last
    · simp at blank

theorem definitionsIn_headerLines (made : includeLines headers = .ok includes) :
    definitionsIn (headerLines symbols diagnostics guard includes stubs) =
      stubs.map (·.heading) := by
  have front := (beginIn_frontLines diagnostics guard made).definitionsIn_eq_nil (by decide)
  have declared : definitionsIn (stubs.flatMap (declarationLines symbols)) =
      stubs.map (·.heading) := by
    unfold definitionsIn
    rw [List.filterMap_flatMap, List.map_eq_flatMap]
    exact List.flatMap_congr fun s _ => definitionsIn_declarationLines symbols s
  have defined : definitionsIn (stubs.flatMap (definitionLines symbols)) = [] :=
    (beginIn_flatMap.mpr fun s _ => beginIn_definitionLines symbols s).definitionsIn_eq_nil
      (by decide)
  have ahead := definitionsIn_aheadLines stubs
  have back : definitionsIn ["#endif // " ++ guard] = [] :=
    List.filterMap_cons_none (between?_of_head? (by simp) (by simp))
  unfold definitionsIn at *
  rw [headerLines_eq, List.filterMap_append, List.filterMap_append, List.filterMap_append,
    List.filterMap_append, front, ahead, declared, defined, back]
  simp

theorem classesIn_headerLines (made : includeLines headers = .ok includes) :
    classesIn (headerLines symbols diagnostics guard includes stubs) = stubs.map (·.name) := by
  have front : classesIn (frontLines diagnostics guard includes) = [] :=
    (beginIn_frontLines diagnostics guard made).filterMap_between?_eq_nil _ rfl (by decide)
  have back : classesIn ["#endif // " ++ guard] = [] :=
    List.filterMap_cons_none (between?_of_head? (by simp) (by simp))
  have split : headerLines symbols diagnostics guard includes stubs =
      frontLines diagnostics guard includes ++ stubLines symbols stubs
        ++ ["#endif // " ++ guard] := by
    simp only [headerLines, frontLines, List.append_assoc]
  rw [split, classesIn_append, classesIn_append, front, back, classesIn_stubLines, List.append_nil,
    List.nil_append]

theorem privatesIn_headerLines (made : includeLines headers = .ok includes) :
    privatesIn (headerLines symbols diagnostics guard includes stubs) =
      stubs.map fun s => s.ownLines ++ s.nesting.map (nestedLine s) := by
  have apart {cs : List Char} {lines : List String} (begin_ : BeginIn cs lines) (other : 'p' ∉ cs) :
      ∀ line ∈ lines, (line == "private:") = false := by
    intro line member
    rw [beq_eq_false_iff_ne]
    rintro rfl
    exact other (begin_ _ member 'p' (by simp))
  have declared (rest : List String) : privatesIn (stubs.flatMap (declarationLines symbols) ++ rest) =
      (stubs.map fun s => s.ownLines ++ s.nesting.map (nestedLine s)) ++ privatesIn rest := by
    induction stubs with
    | nil => rfl
    | cons s more ih =>
      rw [List.flatMap_cons, List.append_assoc, privatesIn_declarationLines, ih, List.map_cons,
        List.cons_append]
  have skip {front rest : List String} (none : ∀ line ∈ front, (line == "private:") = false) :
      privatesIn (front ++ rest) = privatesIn rest := by
    unfold privatesIn
    rw [blocksIn_append none]
  have last : BeginIn ['#'] ["#endif // " ++ guard] := by simp
  have back : privatesIn ["#endif // " ++ guard] = [] := by
    rw [← List.append_nil ["#endif // " ++ guard], skip (apart last (by decide))]
    rfl
  rw [headerLines_eq, skip (apart (beginIn_frontLines diagnostics guard made) (by decide)),
    skip (apart (beginIn_aheadLines stubs) (by decide)), declared,
    skip (apart (beginIn_flatMap.mpr fun s _ => beginIn_definitionLines symbols s) (by decide)), back,
    List.append_nil]

theorem functionsIn_headerLines (made : includeLines headers = .ok includes) :
    functionsIn (headerLines symbols diagnostics guard includes stubs) =
      stubs.flatMap fun s => (memberFunctions symbols s).map fun f => (f.opener s.name, f.body) := by
  have skip {cs : List Char} {front rest : List String} (begin_ : BeginIn cs front)
      (other : 'i' ∉ cs) : functionsIn (front ++ rest) = functionsIn rest :=
    blocksIn_append (begin_.begins_eq_false rfl other)
  have declared (rest : List String) :
      functionsIn (stubs.flatMap (declarationLines symbols) ++ rest) = functionsIn rest := by
    induction stubs with
    | nil => rfl
    | cons s more ih =>
      rw [List.flatMap_cons, List.append_assoc, functionsIn_declarationLines, ih]
  have last : BeginIn ['#'] ["#endif // " ++ guard] := by simp
  have back : functionsIn ["#endif // " ++ guard] = [] := by
    rw [← List.append_nil ["#endif // " ++ guard], skip last (by decide)]
    rfl
  rw [headerLines_eq, skip (beginIn_frontLines diagnostics guard made) (by decide),
    skip (beginIn_aheadLines stubs) (by decide), declared]
  refine (blocksIn_flatMap _ fun s _ more => functionsIn_definitionLines symbols s more).trans ?_
  exact (congrArg _ back).trans (List.append_nil _)

end Header

/-! ## Closed headers -/

/-- Lines name a class for a double that is handed out: a private member keeps the double, a statement
creates it, or a function of one of the declared classes returns it. -/
inductive NamesClass (lines : List String) (name : String) : Prop where
  | keeper {members : List (String × String)} {accessor : String} :
    members ∈ keepersIn lines → (accessor, name) ∈ members → NamesClass lines name
  | creation {accessor : String} : (accessor, name) ∈ creationsIn lines → NamesClass lines name
  | function {owner accessor : String} :
    owner ∈ classesIn lines → (accessor, name ++ "& " ++ owner) ∈ handingsIn lines →
      NamesClass lines name

/-- Lines that define the classes of some doubles and hand out doubles of these classes only. -/
structure AreClosed (lines : List String) (stubs : List Stub) : Prop where
  /-- The classes that are declared ahead are those of the doubles, in their order. -/
  declared : classesIn lines = stubs.map (·.name)
  /-- So are those that are defined, each with its interface. -/
  defined : definitionsIn lines = stubs.map (·.heading)
  once : (definitionsIn lines).Nodup
  keepers : keepersIn lines = stubs.map fun s =>
    s.nesting.map fun m => (m.accessor, nestedClass s m)
  creations : creationsIn lines = (handedOut stubs).map fun (s, m) => (m.accessor, nestedClass s m)
  functions : handingsIn lines = (handedOut stubs).map fun (s, m) =>
    (m.accessor, nestedClass s m ++ "& " ++ s.name)
  closed : ∀ name, NamesClass lines name →
    ∃ other ∈ stubs, other.name = name ∧ other.heading ∈ definitionsIn lines

theorem mangle_eq_of_append_eq {lead i j front front' : String}
    (same : front ++ " " ++ (lead ++ Text.mangle i) = front' ++ " " ++ (lead ++ Text.mangle j)) :
    Text.mangle i = Text.mangle j := by
  let fits (c : Char) : Bool := Text.isPlain c || c == '_'
  have fragment (s : String) : ∀ c ∈ (Text.mangle s).toList.reverse, fits c = true := by
    intro c member
    rcases (Text.isFragment_mangle s).drawn c (List.mem_reverse.mp member) with plain | mark
    · simp [fits, plain]
    · simp [fits, mark]
  -- Read from the end, the fragment and the end of the words stop at the same place.
  have stop (s front : String) :
      (front ++ " " ++ (lead ++ Text.mangle s)).toList.reverse.takeWhile fits =
        (Text.mangle s).toList.reverse ++ lead.toList.reverse.takeWhile fits := by
    have blank : fits ' ' = false := by decide
    simp only [String.toList_append, List.reverse_append, List.append_assoc]
    rw [List.takeWhile_append_of_pos (fragment s), List.takeWhile_append]
    split
    next whole =>
      rw [List.takeWhile_eq_self_iff.mpr (List.takeWhile_eq_self_iff.mp
        (List.takeWhile_sublist fits |>.eq_of_length whole))]
      simp [blank]
    next => rfl
  have ends := (stop i front).symm.trans ((congrArg _ (congrArg _ (congrArg _ same))).trans (stop j front'))
  exact String.toList_inj.mp (List.reverse_injective (List.append_cancel_right ends))

theorem IsUnbroken.inj_of_append {word word' rest rest' : String} (first : IsUnbroken word)
    (second : IsUnbroken word') (same : word ++ " " ++ rest = word' ++ " " ++ rest') :
    word = word' ∧ rest = rest' := by
  have cut {word rest : String} (whole : IsUnbroken word) :
      Text.cutFirst [' '] (word ++ " " ++ rest).toList = some (word.toList, rest.toList) :=
    Text.cutFirst_char_eq_some.mpr ⟨by simp, whole⟩
  have parts := (cut first).symm.trans ((congrArg _ (congrArg _ same)).trans (cut second))
  rw [Option.some.injEq, Prod.mk.injEq] at parts
  exact ⟨String.toList_inj.mp parts.1, String.toList_inj.mp parts.2⟩

theorem AreKindred.name_eq {stubs : List Stub} (kindred : AreKindred stubs) :
    ∃ lead, ∀ s ∈ stubs, s.name = lead ++ Text.mangle s.interface := by
  obtain ⟨lead, led⟩ := kindred.lead
  refine ⟨lead, fun s member => ?_⟩
  rw [Stub.name, led s member, kindred.suffix s member, Text.flatName_eq_mangle]

theorem AreKindred.nodup_headings {stubs : List Stub} (kindred : AreKindred stubs) :
    (stubs.map (·.heading)).Nodup := by
  obtain ⟨lead, named⟩ := kindred.name_eq
  refine List.Nodup.map_on (fun a first b second same => ?_) kindred.interfaces.of_map
  rw [Stub.heading, Stub.heading, named a first, named b second, String.append_assoc,
    String.append_assoc, String.append_assoc, String.append_assoc, String.append_right_inj] at same
  have parts : Text.mangle a.interface ++ " " ++ (": public " ++ a.interface) =
      Text.mangle b.interface ++ " " ++ (": public " ++ b.interface) := by
    simpa [← String.toList_inj] using same
  have rests :=
    ((isUnbroken_mangle a.interface).inj_of_append (isUnbroken_mangle b.interface) parts).2
  exact List.inj_on_of_nodup_map kindred.interfaces first second
    ((String.append_right_inj _).mp rests)

/-- What a function returns is told from its beginning, whatever class of the doubles has it. -/
theorem AreKindred.eq_of_handed {stubs : List Stub} (kindred : AreKindred stubs) {a b : Stub}
    (first : a ∈ stubs) (second : b ∈ stubs) {name name' : String}
    (same : name ++ "& " ++ a.name = name' ++ "& " ++ b.name) : name = name' := by
  obtain ⟨lead, named⟩ := kindred.name_eq
  have text : (name ++ "&") ++ " " ++ (lead ++ Text.mangle a.interface) =
      (name' ++ "&") ++ " " ++ (lead ++ Text.mangle b.interface) := by
    rw [← named a first, ← named b second]
    simpa [← String.toList_inj] using same
  have owners : a.name = b.name := by
    rw [named a first, named b second, mangle_eq_of_append_eq text]
  rw [owners] at same
  exact (String.append_left_inj _).mp ((String.append_left_inj _).mp same)

section Closed

variable (symbols : Option SymbolTable) (diagnostics : Diagnostics) (guard : String)
  {headers : List Value} {includes : List String} {stubs : List Stub}

theorem keepersIn_headerLines (made : includeLines headers = .ok includes)
    (unbroken : ∀ s ∈ stubs, ∀ m ∈ s.nesting, IsUnbroken m.accessor) :
    keepersIn (headerLines symbols diagnostics guard includes stubs) =
      stubs.map fun s => s.nesting.map fun m => (m.accessor, nestedClass s m) := by
  rw [keepersIn, privatesIn_headerLines symbols diagnostics guard stubs made, List.map_map]
  exact List.map_congr_left fun s member => keepers_private s (unbroken s member)

theorem creationsIn_headerLines (made : includeLines headers = .ok includes)
    (unbroken : ∀ s ∈ stubs, ∀ m ∈ s.nesting, IsUnbroken m.accessor) :
    creationsIn (headerLines symbols diagnostics guard includes stubs) =
      (handedOut stubs).map fun (s, m) => (m.accessor, nestedClass s m) := by
  rw [creationsIn, functionsIn_headerLines symbols diagnostics guard stubs made, List.flatMap_assoc,
    handedOut, List.map_flatMap]
  refine List.flatMap_congr fun s member => ?_
  rw [creations_memberFunctions symbols s (unbroken s member), List.map_map]
  rfl

theorem handingsIn_headerLines (made : includeLines headers = .ok includes) :
    handingsIn (headerLines symbols diagnostics guard includes stubs) =
      (handedOut stubs).map fun (s, m) => (m.accessor, nestedClass s m ++ "& " ++ s.name) := by
  rw [handingsIn, functionsIn_headerLines symbols diagnostics guard stubs made,
    List.filterMap_flatMap, handedOut, List.map_flatMap]
  refine List.flatMap_congr fun s _ => ?_
  rw [handings_memberFunctions symbols s, List.map_map]
  rfl

theorem areClosed_headerLines (made : includeLines headers = .ok includes)
    (kindred : AreKindred stubs) (unbroken : ∀ s ∈ stubs, ∀ m ∈ s.nesting, IsUnbroken m.accessor)
    (nested : ∀ s ∈ stubs, ∀ m ∈ s.nesting, ∃ other ∈ stubs, nestedClass s m = other.name) :
    AreClosed (headerLines symbols diagnostics guard includes stubs) stubs := by
  have declared := classesIn_headerLines symbols diagnostics guard stubs made
  have defined := definitionsIn_headerLines symbols diagnostics guard stubs made
  have keepers := keepersIn_headerLines symbols diagnostics guard made unbroken
  have creations := creationsIn_headerLines symbols diagnostics guard made unbroken
  have functions : handingsIn (headerLines symbols diagnostics guard includes stubs) = _ :=
    handingsIn_headerLines symbols diagnostics guard made
  refine ⟨declared, defined, defined ▸ kindred.nodup_headings, keepers, creations, functions, ?_⟩
  intro name names
  -- Wherever the lines name a class, they do so for a method that hands out a double.
  suffices ∃ s ∈ stubs, ∃ m ∈ s.nesting, nestedClass s m = name by
    obtain ⟨s, listed, m, member, rfl⟩ := this
    obtain ⟨other, there, named⟩ := nested s listed m member
    exact ⟨other, there, named.symm, defined ▸ List.mem_map_of_mem there⟩
  have of_handedOut {accessor name : String} {f : Stub × InstrumentedMethod → String × String}
      (handed : (accessor, name) ∈ (handedOut stubs).map f) :
      ∃ s ∈ stubs, ∃ m ∈ s.nesting, f (s, m) = (accessor, name) := by
    obtain ⟨_, handed, same⟩ := List.mem_map.mp handed
    obtain ⟨s, listed, inner⟩ := List.mem_flatMap.mp handed
    obtain ⟨m, member, rfl⟩ := List.mem_map.mp inner
    exact ⟨s, listed, m, member, same⟩
  cases names with
  | keeper listed member =>
    rw [keepers] at listed
    obtain ⟨s, there, rfl⟩ := List.mem_map.mp listed
    obtain ⟨m, member, same⟩ := List.mem_map.mp member
    exact ⟨s, there, m, member, (Prod.mk.inj same).2⟩
  | creation created =>
    rw [creations] at created
    obtain ⟨s, listed, m, member, same⟩ := of_handedOut created
    exact ⟨s, listed, m, member, (Prod.mk.inj same).2⟩
  | function known handed =>
    rw [functions] at handed
    obtain ⟨s, listed, m, member, same⟩ := of_handedOut handed
    rw [declared] at known
    obtain ⟨owner, there, rfl⟩ := List.mem_map.mp known
    exact ⟨s, listed, m, member, kindred.eq_of_handed listed there (Prod.mk.inj same).2⟩

end Closed

end Understudy
