import Understudy.Proofs.Double.Reach
import Understudy.Stub.Header

/-! The class of a double and its definitions.

Declarations and definitions print the same records of member functions, each in its own form and
place, while aggregates, members for nested doubles and the slots of a live double come from walks of
their own over the methods. Main statement: read back from their lines, declarations and definitions
are those of the same functions in the same order, members for nested doubles are set up and deleted
once each, and aggregates have the accessors that a live double has.
-/

set_option autoImplicit false

open Relation

namespace Understudy

open Understudy.Cpp

/-! ## Reading lines -/

def blockOf (first last : String) (lines : List String) : List String :=
  ((lines.dropWhile (· != first)).drop 1).takeWhile (· != last)

/-- Whether a line begins with a text. -/
def begins (front line : String) : Bool := front.toList.isPrefixOf line.toList

def endsIn (c : Char) (line : String) : Bool := line.toList.getLast? == some c

def publicMembers (lines : List String) : List String :=
  (blockOf "public:" "private:" lines).filter (· != "")

def privateLines (lines : List String) : List String := blockOf "private:" "\x7d;" lines

def definitionHeads (lines : List String) : List String := lines.filter (begins "inline ")

def deletions (lines : List String) : List String := lines.filter (begins (indentation ++ "delete "))

def functionsOf (struct : String) (lines : List String) : List String :=
  (blockOf ("struct " ++ struct ++ " \x7b") "\x7d;" lines).filter (endsIn '\x7d')

theorem blockOf_eq {first last : String} {front inner back : List String} (before : first ∉ front)
    (inside : last ∉ inner) :
    blockOf first last (front ++ first :: (inner ++ last :: back)) = inner := by
  have skipped : ∀ line ∈ front, (line != first) = true := by
    intro line member
    rw [bne_iff_ne]
    rintro rfl
    exact before member
  have taken : ∀ line ∈ inner, (line != last) = true := by
    intro line member
    rw [bne_iff_ne]
    rintro rfl
    exact inside member
  unfold blockOf
  rw [List.dropWhile_append_of_pos skipped, List.dropWhile_cons_of_neg (by simp), List.drop_one,
    List.tail_cons, List.takeWhile_append_of_pos taken, List.takeWhile_cons_of_neg (by simp),
    List.append_nil]

theorem begins_eq_false {front line : String} (start : front.toList ≠ [])
    (other : line.toList.head? ≠ front.toList.head?) : begins front line = false := by
  unfold begins
  rw [Bool.eq_false_iff, ne_eq, List.isPrefixOf_iff_prefix]
  rintro ⟨rest, same⟩
  rw [← same, List.head?_append_of_ne_nil _ start] at other
  exact other rfl

@[simp] theorem begins_append (front rest : String) : begins front (front ++ rest) = true := by
  simp [begins]

theorem ne_of_head? {a b : String} (apart : a.toList.head? ≠ b.toList.head?) : a ≠ b :=
  fun same => apart (congrArg (·.toList.head?) same)

def AreIndented (lines : List String) : Prop := ∀ line ∈ lines, line.toList.head? = some ' '

@[simp] theorem areIndented_nil : AreIndented [] := by simp [AreIndented]

@[simp] theorem areIndented_cons {line : String} {rest : List String} :
    AreIndented (line :: rest) ↔ line.toList.head? = some ' ' ∧ AreIndented rest := by
  simp [AreIndented]

@[simp] theorem areIndented_append {first rest : List String} :
    AreIndented (first ++ rest) ↔ AreIndented first ∧ AreIndented rest := by
  simp [AreIndented, or_imp, forall_and]

@[simp] theorem areIndented_map {α : Type} {l : List α} {f : α → String} :
    AreIndented (l.map f) ↔ ∀ a ∈ l, (f a).toList.head? = some ' ' := by
  simp [AreIndented]

@[simp] theorem areIndented_flatMap {α : Type} {l : List α} {f : α → List String} :
    AreIndented (l.flatMap f) ↔ ∀ a ∈ l, AreIndented (f a) := by
  simp only [AreIndented, List.mem_flatMap, forall_exists_index, and_imp]
  exact ⟨fun each a member line => each line a member, fun each line a member => each a member line⟩

theorem AreIndented.not_mem {lines : List String} (indented : AreIndented lines) {line : String}
    (flush : line.toList.head? ≠ some ' ') : line ∉ lines :=
  fun member => flush (indented line member)

@[simp] theorem areIndented_guarded (condition statement : String) :
    AreIndented (Statement.guarded condition statement) := by
  simp [Statement.guarded, indentation, twice]

@[simp] theorem areIndented_lines (m : InstrumentedMethod) (statement : Statement) :
    AreIndented (statement.lines m) := by
  cases statement <;> simp [Statement.lines, indentation]

/-! ## Headings -/

/-- What declaration and definition of a function have in common. -/
structure Heading where
  result : Option String
  name : String
  parameters : String
  isConst : Bool
  deriving DecidableEq, Repr

def Heading.text (h : Heading) (qualifier : String) : String :=
  ((h.result.map (· ++ " ")).getD "") ++ qualifier ++ h.name ++ "(" ++ h.parameters ++ ")"
    ++ (if h.isConst then " const" else "")

def Heading.IsDeclaredBy (h : Heading) (line : String) : Prop :=
  ∃ start ∈ ["", "virtual "], line = indentation ++ start ++ h.text "" ++ ";"

def Heading.IsDefinedBy (owner : String) (h : Heading) (line : String) : Prop :=
  ∃ setUp, (setUp = "" ∨ ∃ members, setUp = " : " ++ ", ".intercalate members) ∧
    line = "inline " ++ h.text (owner ++ "::") ++ setUp ++ " \x7b"

section

variable (symbols : Option SymbolTable) (s : Stub)

/-- What the class of a double is to have: constructor and destructor, a getter for each aggregate,
what the interface asks for, and a function for each nested double. -/
def Stub.headings : List Heading :=
  [⟨none, s.name, "", false⟩, ⟨none, "~" ++ s.name, "", false⟩]
    ++ aggregateNames.map (fun (aggregate, getter, _) =>
      ⟨some (s.internalSpace ++ "::" ++ aggregate ++ "&"), getter, "", false⟩)
    ++ s.methods.map (fun m =>
      ⟨some (spellIn symbols m.declaring m.returnType), m.name,
        parameterList symbols m.declaring m.method.parameters, m.method.isConst⟩)
    ++ s.passthrough.map (fun p =>
      ⟨some (spellIn symbols p.declaring p.returnType), p.method.name,
        parameterList symbols p.declaring p.method.parameters, p.method.isConst⟩)
    ++ s.nesting.map fun m =>
      ⟨some (nestedClass s m ++ "&"), "StubNested_" ++ m.accessor, "", true⟩

def MemberFunction.heading (f : MemberFunction) : Heading :=
  ⟨f.result, f.name, f.parameters, f.isConst⟩

theorem map_heading_memberFunctions :
    (memberFunctions symbols s).map (·.heading) = s.headings symbols := by
  unfold memberFunctions interfaceMembers gettersOf Stub.headings
  simp only [List.map_append, List.map_map, List.append_assoc]
  rfl

theorem MemberFunction.signature_eq (f : MemberFunction) (qualifier : String) :
    f.signature qualifier = f.heading.text qualifier := rfl

/-! ## Declarations -/

@[simp] theorem areIndented_declare (fs : List MemberFunction) :
    AreIndented (fs.map (·.declare)) := by
  simp [MemberFunction.declare, indentation]

theorem AreIndented.filter_ne_empty {lines : List String} (indented : AreIndented lines) :
    lines.filter (· != "") = lines := by
  rw [List.filter_eq_self]
  intro line member
  rw [bne_iff_ne]
  rintro rfl
  cases indented _ member

def Stub.ownLines (s : Stub) : List String :=
  [indentation ++ s.name ++ "(const " ++ s.name ++ "& other);",
   indentation ++ s.name ++ "& operator=(const " ++ s.name ++ "& other);", ""]
    ++ aggregateNames.map fun (aggregate, _, member) =>
      indentation ++ "mutable " ++ s.internalSpace ++ "::" ++ aggregate ++ " " ++ member ++ ";"

def nestedLine (s : Stub) (m : InstrumentedMethod) : String :=
  indentation ++ "mutable " ++ nestedClass s m ++ "* " ++ nestedMember m ++ ";"

def publicLines : List String :=
  [constructorOf s, destructorOf s].map (·.declare) ++ [""]
    ++ (gettersOf s).map (·.declare) ++ [""]
    ++ (interfaceMembers symbols s).map (·.declare) ++ [""]

theorem classOf_eq : classOf symbols s =
    ["class " ++ s.name ++ " : public " ++ s.interface ++ " \x7b"] ++ "public:" ::
      (publicLines symbols s ++ "private:" ::
        (s.ownLines ++ s.nesting.map (nestedLine s) ++ "\x7d;" :: [""])) := by
  unfold classOf publicLines Stub.ownLines stateMembers
  simp only [List.append_assoc, List.cons_append, List.nil_append]
  rfl

theorem private_not_mem_publicLines : "private:" ∉ publicLines symbols s := by
  have inside (fs : List MemberFunction) : "private:" ∉ fs.map (·.declare) :=
    (areIndented_declare fs).not_mem (by simp)
  unfold publicLines
  simp only [List.mem_append, inside]
  simp

/-- The public section declares all member functions. -/
theorem publicMembers_classOf :
    publicMembers (classOf symbols s) = (memberFunctions symbols s).map (·.declare) := by
  have before : "public:" ∉ ["class " ++ s.name ++ " : public " ++ s.interface ++ " \x7b"] := by
    rw [List.mem_singleton]
    exact ne_of_head? (by simp)
  unfold publicMembers
  rw [classOf_eq, blockOf_eq before (private_not_mem_publicLines symbols s)]
  simp only [publicLines, List.filter_append, (areIndented_declare _).filter_ne_empty]
  simp [memberFunctions]

theorem privateLines_classOf :
    privateLines (classOf symbols s) = s.ownLines ++ s.nesting.map (nestedLine s) := by
  have split : classOf symbols s =
      (["class " ++ s.name ++ " : public " ++ s.interface ++ " \x7b", "public:"]
        ++ publicLines symbols s) ++ "private:" ::
          (s.ownLines ++ s.nesting.map (nestedLine s) ++ "\x7d;" :: [""]) := by
    rw [classOf_eq]
    simp only [List.append_assoc, List.cons_append, List.nil_append]
  have before : "private:" ∉
      ["class " ++ s.name ++ " : public " ++ s.interface ++ " \x7b", "public:"]
        ++ publicLines symbols s := by
    simp only [List.mem_append, private_not_mem_publicLines, or_false, List.mem_cons,
      List.not_mem_nil, not_or]
    exact ⟨ne_of_head? (by simp), by decide⟩
  have starts : ∀ line ∈ s.ownLines ++ s.nesting.map (nestedLine s),
      line.toList.head? ≠ some '\x7d' := by
    simp only [Stub.ownLines, List.forall_mem_append, List.forall_mem_cons, List.forall_mem_map]
    simp [nestedLine, indentation]
  unfold privateLines
  rw [split]
  exact blockOf_eq before fun member => starts _ member (by simp)

/-! ## Definitions -/

def MemberFunction.opener (owner : String) (f : MemberFunction) : String :=
  let start := if f.initializers.isEmpty then "" else " : " ++ ", ".intercalate f.initializers
  "inline " ++ f.signature (owner ++ "::") ++ start ++ " \x7b"

theorem define_eq (owner : String) (f : MemberFunction) :
    f.define owner = f.opener owner :: (f.body ++ ["\x7d", ""]) := rfl

theorem AreIndented.definitionHeads_eq {lines : List String} (indented : AreIndented lines) :
    definitionHeads lines = [] := by
  refine List.filter_eq_nil_iff.mpr fun line member => ?_
  rw [Bool.not_eq_true]
  refine begins_eq_false (by simp) ?_
  rw [indented line member]
  simp

theorem definitionHeads_define {owner : String} {f : MemberFunction}
    (indented : AreIndented f.body) : definitionHeads (f.define owner) = [f.opener owner] := by
  have opens : begins "inline " (f.opener owner) = true := by
    simp [MemberFunction.opener, String.append_assoc]
  rw [define_eq, definitionHeads, List.filter_cons_of_pos opens, ← definitionHeads,
    definitionHeads, List.filter_append, ← definitionHeads, indented.definitionHeads_eq]
  rfl

theorem areIndented_passthroughBody (p : PassthroughMethod) :
    AreIndented (passthroughBody symbols p) := by
  unfold passthroughBody
  split
  · simp [indentation]
  · split <;> simp [indentation]

theorem areIndented_body : ∀ f ∈ memberFunctions symbols s, AreIndented f.body := by
  unfold memberFunctions interfaceMembers gettersOf aggregateNames
  simp only [List.mem_append, List.mem_cons, List.mem_map, List.not_mem_nil, or_false]
  -- Constructor and destructor, getters, overrides, passthroughs, nested doubles.
  rintro f (((rfl | rfl) | ⟨names, _, rfl⟩) | ((⟨m, _, rfl⟩ | ⟨p, _, rfl⟩) | ⟨m, _, rfl⟩))
  · simp [constructorOf]
  · simp [destructorOf, indentation]
  · simp [indentation]
  · simp [overrideOf]
  · exact areIndented_passthroughBody symbols p
  · simp [nestedOf, indentation]

theorem definitionHeads_definitionLines :
    definitionHeads (definitionLines symbols s) =
      (memberFunctions symbols s).map (·.opener s.name) := by
  unfold definitionLines definitionHeads
  rw [List.filter_flatMap, List.map_eq_flatMap]
  refine List.flatMap_congr fun f member => ?_
  exact definitionHeads_define (areIndented_body symbols s f member)

/-! ## Members for nested doubles -/

theorem deletions_eq_nil {lines : List String}
    (other : ∀ line ∈ lines, line.toList[4]? ≠ some 'd') : deletions lines = [] := by
  refine List.filter_eq_nil_iff.mpr fun line member is => other line member ?_
  obtain ⟨rest, same⟩ := List.isPrefixOf_iff_prefix.mp is
  rw [← same]
  simp [indentation]

theorem deletions_lines (m : InstrumentedMethod) (statement : Statement) :
    deletions (statement.lines m) = [] := by
  apply deletions_eq_nil
  cases statement <;> simp [Statement.lines, Statement.guarded, indentation, twice]

theorem deletions_passthroughBody (p : PassthroughMethod) :
    deletions (passthroughBody symbols p) = [] := by
  apply deletions_eq_nil
  unfold passthroughBody
  split
  · simp [indentation]
  · split <;> simp [indentation]

theorem deletions_define (owner : String) (f : MemberFunction) :
    deletions (f.define owner) = deletions f.body := by
  have opens : deletions [f.opener owner] = [] := by
    apply deletions_eq_nil
    simp [MemberFunction.opener, String.append_assoc]
  have closes : deletions ["\x7d", ""] = [] := rfl
  rw [define_eq, deletions, ← List.singleton_append, List.filter_append, List.filter_append,
    ← deletions, ← deletions, ← deletions, opens, closes, List.nil_append, List.append_nil]

theorem deletions_definitionLines :
    deletions (definitionLines symbols s) = (destructorOf s).body := by
  have all : deletions (destructorOf s).body = (destructorOf s).body := by
    refine List.filter_eq_self.mpr fun line member => ?_
    obtain ⟨m, _, rfl⟩ := List.mem_map.mp member
    have same : indentation ++ "delete " ++ nestedMember m ++ ";" =
        indentation ++ "delete " ++ (nestedMember m ++ ";") := String.append_assoc
    rw [same]
    exact begins_append _ _
  have none : ∀ f ∈ gettersOf s ++ interfaceMembers symbols s, deletions f.body = [] := by
    unfold interfaceMembers gettersOf aggregateNames
    simp only [List.mem_append, List.mem_map]
    rintro f (⟨names, _, rfl⟩ | ((⟨m, _, rfl⟩ | ⟨p, _, rfl⟩) | ⟨m, _, rfl⟩))
    · exact deletions_eq_nil (by simp [indentation])
    · simp only [overrideOf, deletions, List.filter_flatMap]
      exact List.flatMap_eq_nil_iff.mpr fun statement _ => deletions_lines m statement
    · exact deletions_passthroughBody symbols p
    · exact deletions_eq_nil (by simp [nestedOf, Statement.guarded, indentation, twice])
  -- Of the two functions that are left, the constructor has no statements.
  unfold definitionLines memberFunctions
  rw [deletions, List.filter_flatMap]
  change List.flatMap (fun f : MemberFunction => deletions (f.define s.name)) _ = _
  have rest := List.flatMap_eq_nil_iff.mpr none
  simp only [deletions_define, List.append_assoc]
  rw [List.flatMap_append, rest, List.append_nil]
  simp only [List.flatMap_cons, List.flatMap_nil, List.append_nil, all]
  rfl

end

def Stub.nestedMembers (s : Stub) : List String := s.nesting.map nestedMember

theorem nodup_nestedMembers {t : SymbolTable} {lead : Value} {d : Declaration String} {s : Stub}
    (made : t.buildStub lead d = .ok s) : s.nestedMembers.Nodup := by
  have sub : (s.nesting.map (·.accessor)).Sublist (s.methods.map (·.accessor)) :=
    List.filter_sublist.map _
  have same : s.nestedMembers = (s.nesting.map (·.accessor)).map ("stub_nested_" ++ ·) := by
    rw [List.map_map]
    rfl
  rw [same]
  refine ((SymbolTable.nodup_accessors made).sublist sub).map fun a b alike => ?_
  simpa using alike

/-! ## Aggregates -/

def accessorFunction (space accessor : String) : String :=
  indentation ++ space ++ "::" ++ accessor ++ "_t& " ++ accessor ++ "() \x7b return " ++ accessor
    ++ "_; \x7d"

def accessorMember (space accessor : String) : String :=
  indentation ++ space ++ "::" ++ accessor ++ "_t " ++ accessor ++ "_;"

theorem aggregateLines_eq (name space : String) (accessors : List String) :
    aggregateLines name space accessors = ("struct " ++ name ++ " \x7b") ::
      (accessors.map (accessorFunction space) ++ accessors.map (accessorMember space)
        ++ ["\x7d;", ""]) := by
  unfold aggregateLines accessorFunction accessorMember
  simp only [List.append_assoc, List.cons_append, List.nil_append]

theorem accessorFunction_injective (space : String) :
    Function.Injective (accessorFunction space) := by
  intro a b same
  have chars := congrArg String.toList same
  simp only [accessorFunction, String.toList_append, List.append_assoc, List.append_cancel_left_eq]
    at chars
  -- The accessor stands three times in the line, so the lengths agree before the texts do.
  have length := congrArg List.length chars
  simp only [List.length_append] at length
  exact String.toList_inj.mp (List.append_inj_left chars (by omega))

theorem endsIn_append {c : Char} {front back : String} (some : back.toList ≠ []) :
    endsIn c (front ++ back) = endsIn c back := by
  rw [endsIn, String.toList_append, List.getLast?_append_of_ne_nil _ some, endsIn]

/-- Within an aggregate, functions end in a brace and members do not. -/
theorem functionsOf_aggregateLines {name space : String} {accessors front back : List String}
    (before : "struct " ++ name ++ " \x7b" ∉ front) :
    functionsOf name (front ++ (aggregateLines name space accessors ++ back)) =
      accessors.map (accessorFunction space) := by
  have functions : (accessors.map (accessorFunction space)).filter (endsIn '\x7d') =
      accessors.map (accessorFunction space) := by
    refine List.filter_eq_self.mpr fun line member => ?_
    obtain ⟨a, _, rfl⟩ := List.mem_map.mp member
    exact (endsIn_append (by simp)).trans (by decide)
  have members : (accessors.map (accessorMember space)).filter (endsIn '\x7d') = [] := by
    refine List.filter_eq_nil_iff.mpr fun line member => ?_
    obtain ⟨a, _, rfl⟩ := List.mem_map.mp member
    rw [accessorMember, endsIn_append (by simp)]
    decide
  have split : front ++ (aggregateLines name space accessors ++ back) =
      front ++ ("struct " ++ name ++ " \x7b") ::
        ((accessors.map (accessorFunction space) ++ accessors.map (accessorMember space))
          ++ "\x7d;" :: ("" :: back)) := by
    rw [aggregateLines_eq]
    simp only [List.append_assoc, List.cons_append, List.nil_append]
  have inside : "\x7d;" ∉
      accessors.map (accessorFunction space) ++ accessors.map (accessorMember space) := by
    apply AreIndented.not_mem
    · simp [accessorFunction, accessorMember, indentation]
    · simp
  unfold functionsOf
  rw [split, blockOf_eq before inside, List.filter_append, functions, members, List.append_nil]

theorem not_mem_aggregateLines {name other space : String} {accessors : List String}
    (apart : "struct " ++ name ++ " \x7b" ≠ "struct " ++ other ++ " \x7b") :
    "struct " ++ name ++ " \x7b" ∉ aggregateLines other space accessors := by
  have rest : ∀ line ∈ accessors.map (accessorFunction space)
      ++ accessors.map (accessorMember space) ++ ["\x7d;", ""],
      line.toList.head? ≠ some 's' := by
    simp only [List.forall_mem_append, List.forall_mem_cons, List.forall_mem_map]
    simp [accessorFunction, accessorMember, indentation]
  rw [aggregateLines_eq, List.mem_cons, not_or]
  exact ⟨apart, fun later => rest _ later (by simp)⟩

def Space.aggregate : Space → String
  | .counter => "StubCounter"
  | .callback => "StubCallback"
  | .static => "StubStatic"

def Stub.namespaceOf (s : Stub) : Space → String
  | .counter => s.counterSpace
  | .callback => s.callbackSpace
  | .static => s.staticSpace

theorem functionsOf_internalOf (s : Stub) (space : Space) :
    functionsOf space.aggregate (internalOf s) =
      (s.slotted space).map (accessorFunction (s.namespaceOf space)) := by
  let first := [opening s.internalSpace, "template<typename T>", "void StubInit(T* value) \x7b",
    indentation ++ "*value = T();", "\x7d", ""]
  let counters := aggregateLines "StubCounter" s.counterSpace (s.methods.map (·.accessor))
  let callbacks := aggregateLines "StubCallback" s.callbackSpace (s.methods.map (·.accessor))
  -- Lines that start with an s open aggregates, and these have different names.
  have starts : ∀ line ∈ first, line.toList.head? ≠ some 's' := by
    simp only [first, List.forall_mem_cons]
    simp [opening, indentation]
  have early (name : String) : "struct " ++ name ++ " \x7b" ∉ first :=
    fun member => starts _ member (by simp)
  cases space with
  | counter =>
    have split : internalOf s = first ++ (counters ++ (callbacks
        ++ aggregateLines "StubStatic" s.staticSpace (s.returning.map (·.accessor))
        ++ closing s.internalSpace)) := by
      simp only [internalOf, List.append_assoc, first, counters, callbacks]
    rw [split]
    exact functionsOf_aggregateLines (early _)
  | callback =>
    have split : internalOf s = (first ++ counters) ++ (callbacks ++
        (aggregateLines "StubStatic" s.staticSpace (s.returning.map (·.accessor))
        ++ closing s.internalSpace)) := by
      simp only [internalOf, List.append_assoc, first, counters, callbacks]
    rw [split]
    refine functionsOf_aggregateLines ?_
    rw [List.mem_append, not_or]
    exact ⟨early _, not_mem_aggregateLines (by decide)⟩
  | static =>
    have split : internalOf s = (first ++ counters ++ callbacks) ++
        (aggregateLines "StubStatic" s.staticSpace (s.returning.map (·.accessor))
        ++ closing s.internalSpace) := by
      simp only [internalOf, List.append_assoc, first, counters, callbacks]
    rw [split]
    refine functionsOf_aggregateLines ?_
    rw [List.mem_append, List.mem_append, not_or, not_or]
    exact ⟨⟨early _, not_mem_aggregateLines (by decide)⟩, not_mem_aggregateLines (by decide)⟩

/-! ## Agreement -/

theorem MemberFunction.isDeclaredBy_declare (f : MemberFunction) :
    f.heading.IsDeclaredBy f.declare := by
  refine ⟨if f.isVirtual then "virtual " else "", ?_, rfl⟩
  split <;> simp

theorem MemberFunction.isDefinedBy_opener (owner : String) (f : MemberFunction) :
    f.heading.IsDefinedBy owner (f.opener owner) := by
  unfold Heading.IsDefinedBy MemberFunction.opener
  rw [MemberFunction.signature_eq]
  refine ⟨_, ?_, rfl⟩
  split
  · exact .inl rfl
  · exact .inr ⟨f.initializers, rfl⟩

/-- What holds between the class of a double, its definitions, its aggregates and live doubles. -/
structure Stub.Agrees (symbols : Option SymbolTable) (s : Stub) : Prop where
  /-- The public section declares the headings in order, and nothing else. -/
  declared : List.Forall₂ Heading.IsDeclaredBy (s.headings symbols)
    (publicMembers (classOf symbols s))
  /-- The definitions are those of the same headings in the same order. -/
  defined : List.Forall₂ (Heading.IsDefinedBy s.name) (s.headings symbols)
    (definitionHeads (definitionLines symbols s))
  /-- The private section declares a member for each nested double. -/
  members : privateLines (classOf symbols s) = s.ownLines ++ s.nesting.map (nestedLine s)
  distinct : s.nestedMembers.Nodup
  /-- The constructor sets up the aggregates and then each of these members. -/
  initialised : (definitionHeads (definitionLines symbols s)).head? =
    some ("inline " ++ s.name ++ "::" ++ s.name ++ "() : " ++ ", ".intercalate
      (["stub_counter()", "stub_callback()", "stub_static()"]
        ++ s.nestedMembers.map (· ++ "(0)")) ++ " \x7b")
  /-- All that is deleted anywhere are these members. -/
  deleted : deletions (definitionLines symbols s) =
    s.nestedMembers.map fun member => indentation ++ "delete " ++ member ++ ";"
  /-- Whatever happened to a double, an aggregate has functions for the accessors it exposes. -/
  exposed : ∀ d, Double.ofStub s = .ok d → ∀ after, ReflTransGen Double.Change d after →
    ∀ space accessors, functionsOf space.aggregate (internalOf s) =
        accessors.map (accessorFunction (s.namespaceOf space)) ↔
      accessors = after.accessors space

theorem functionsOf_internalOf_iff {s : Stub} {d after : Double} (made : Double.ofStub s = .ok d)
    (changes : ReflTransGen Double.Change d after) (space : Space) (accessors : List String) :
    functionsOf space.aggregate (internalOf s) =
        accessors.map (accessorFunction (s.namespaceOf space)) ↔
      accessors = after.accessors space := by
  have fresh : d = Double.fresh s := by
    unfold Double.ofStub at made
    split at made
    · cases made
    · exact (Except.ok.inj made).symm
  subst fresh
  rw [functionsOf_internalOf, ← (Double.isSlotted_of_changes changes).accessors space,
    List.map_inj_right fun _ _ same => accessorFunction_injective _ same, eq_comm]

theorem SymbolTable.agrees_of_buildStub {t : SymbolTable} {lead : Value} {d : Declaration String}
    {s : Stub} (made : t.buildStub lead d = .ok s) (symbols : Option SymbolTable) :
    s.Agrees symbols where
  declared := by
    rw [publicMembers_classOf, ← map_heading_memberFunctions, List.forall₂_map_left_iff,
      List.forall₂_map_right_iff, List.forall₂_same]
    exact fun f _ => f.isDeclaredBy_declare
  defined := by
    rw [definitionHeads_definitionLines, ← map_heading_memberFunctions, List.forall₂_map_left_iff,
      List.forall₂_map_right_iff, List.forall₂_same]
    exact fun f _ => f.isDefinedBy_opener s.name
  members := privateLines_classOf symbols s
  distinct := nodup_nestedMembers made
  initialised := by
    rw [definitionHeads_definitionLines]
    simp only [memberFunctions, List.cons_append, List.map_cons, List.head?_cons, Option.some_inj]
    simp [MemberFunction.opener, MemberFunction.signature, constructorOf, Stub.nestedMembers,
      String.append_assoc, Function.comp_def]
    exact String.append_assoc.symm
  deleted := by
    rw [deletions_definitionLines, Stub.nestedMembers, List.map_map]
    rfl
  exposed _ live _ changes := functionsOf_internalOf_iff live changes

def roster : Declaration String :=
  let asking (name : String) (given : List SemanticType) (result : SemanticType) (isConst : Bool) :
      Method String :=
    { name, parameters := given.map (⟨·, .null⟩), returnType := some result, isPure := true, isConst
      visibility := .public }
  let itself (isConst : Bool) : SemanticType := .reference (.named "Roster" isConst) false
  { name := "Roster", kind := .interface, bases := []
    methods :=
      [asking "clear" [] (.primitive "void" false) false,
        asking "size" [] (.primitive "int" false) true,
        asking "at" [.primitive "int" false] (.reference (.named "Item" true) false) true,
        asking "next" [] (itself false) false,
        asking "operator=" [itself true] (itself false) false]
    fields := [], isFull := true, unit := .null }

def rosters : SymbolTable :=
  (SymbolTable.merge [{ name := .null, declarations := [roster], bodies := [], header := .null }]).1

def rosterMembers : List String :=
  ["StubRoster()", "~StubRoster()",
   "StubInternalRoster::StubCounter& StubGetCounter()",
   "StubInternalRoster::StubCallback& StubGetCallback()",
   "StubInternalRoster::StubStatic& StubGetStatic()",
   "void clear()", "int size() const", "const Item& at(int x0) const", "Roster& next()",
   "Roster& operator=(const Roster& x0)", "StubRoster& StubNested_next() const"]

theorem agrees_roster :
    ∃ s, rosters.buildStub (.text "Stub") roster = .ok s ∧
      (s.headings (some rosters)).map (·.text "") = rosterMembers ∧
      s.nestedMembers = ["stub_nested_next"] ∧ s.slotted .static = ["size", "at", "next"] ∧
      s.Agrees (some rosters) := by
  have made : (rosters.buildStub (.text "Stub") roster).toOption.map (fun s =>
      ((s.headings (some rosters)).map (·.text ""), s.nestedMembers, s.slotted .static)) =
        some (rosterMembers, ["stub_nested_next"], ["size", "at", "next"]) := by
    decide +kernel
  obtain ⟨s, built, shown⟩ := Option.map_eq_some_iff.mp made
  have built : rosters.buildStub (.text "Stub") roster = .ok s := eq_ok_of_toOption built
  simp only [Prod.mk.injEq] at shown
  obtain ⟨headings, nested, statics⟩ := shown
  exact ⟨s, built, headings, nested, statics, SymbolTable.agrees_of_buildStub built _⟩

end Understudy
