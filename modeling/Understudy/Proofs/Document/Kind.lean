import Understudy.Proofs.Document.Record
import Understudy.Proofs.Outcome
import Understudy.Symbols.Intake

/-! Which declarations are accepted, and the kind of those that state none.

The kind of a declaration counts only against its ordinary methods: an interface has pure ones only,
and an ordinary class has none. A record that states no kind is read as one of the kind that its
methods suggest. Main statement: it is accepted if it is with any kind stated, and where nothing else is
wrong with it, it is refused exactly if its ordinary methods are mixed. Names may be any values.
-/

set_option autoImplicit false

namespace Understudy.Cpp

namespace Declaration

variable {ν β : Type}

def ofKind (d : Declaration ν β) (kind : DeclKind) : Declaration ν β := { d with kind }

def inferred (d : Declaration String β) : Declaration String β :=
  d.ofKind (inferKind d.name d.methods)

end Declaration

section Kinds

variable {β : Type}

/-- Only constructors and destructors of a declaration lack a return type. -/
def ReturnsFit (d : Declaration String β) : Prop :=
  ∀ m ∈ d.methods, m.returnType = none → mayLackReturn d.name m = true

/-- Whether a declaration has ordinary methods that are pure, or ones that are not. -/
def HasOrdinary (d : Declaration String β) (isPure : Bool) : Prop :=
  ∃ m ∈ d.methods, isOrdinary d.name m = true ∧ m.isPure = isPure

/-- Some ordinary methods are pure, and some are not. -/
def IsMixed (d : Declaration String β) : Prop := HasOrdinary d true ∧ HasOrdinary d false

instance (d : Declaration String β) (isPure : Bool) : Decidable (HasOrdinary d isPure) :=
  inferInstanceAs (Decidable (∃ m ∈ d.methods, _))

instance (d : Declaration String β) : Decidable (IsMixed d) := inferInstanceAs (Decidable (_ ∧ _))

variable {d : Declaration String β}

theorem methodFault?_eq_none_iff {m : Method String} :
    methodFault? d m = none ↔ (m.returnType = none → mayLackReturn d.name m = true) ∧
      (isOrdinary d.name m = true → m.isPure = d.isInterface) := by
  unfold methodFault?
  cases m.returnType <;> cases mayLackReturn d.name m <;> cases isOrdinary d.name m <;>
    cases m.isPure <;> cases d.isInterface <;> simp

theorem not_hasOrdinary_iff {isPure : Bool} :
    ¬ HasOrdinary d (!isPure) ↔
      ∀ m ∈ d.methods, isOrdinary d.name m = true → m.isPure = isPure := by
  simp [HasOrdinary]

theorem malformation?_eq_none_iff :
    malformation? d = none ↔ forwardFault? d = none ∧ fieldFault? d = none ∧ ReturnsFit d ∧
      ¬ HasOrdinary d (!d.isInterface) := by
  rw [malformation?, Option.or_eq_none_iff, Option.or_eq_none_iff, List.findSome?_eq_none_iff,
    not_hasOrdinary_iff]
  simp only [methodFault?_eq_none_iff, ReturnsFit, forall_and]

theorem inferKind_eq_interface_iff :
    inferKind d.name d.methods = .interface ↔ HasOrdinary d true ∧ ¬ HasOrdinary d false := by
  have all : (d.methods.filter (isOrdinary d.name)).all (·.isPure) = true ↔
      ¬ HasOrdinary d false := by
    rw [← Bool.not_true, not_hasOrdinary_iff]
    simp only [List.all_eq_true, List.mem_filter, and_imp]
  have known : (!(d.methods.filter (isOrdinary d.name)).isEmpty) = true ↔
      ∃ m ∈ d.methods, isOrdinary d.name m = true := by
    simp [List.filter_eq_nil_iff]
  have chosen : inferKind d.name d.methods = .interface ↔
      (∃ m ∈ d.methods, isOrdinary d.name m = true) ∧ ¬ HasOrdinary d false := by
    rw [inferKind, ← known, ← all, ← Bool.and_eq_true]
    split
    next both => exact iff_of_true rfl both
    next unfit => exact iff_of_false nofun unfit
  rw [chosen]
  constructor
  · rintro ⟨⟨m, member, ordinary⟩, others⟩
    exact ⟨⟨m, member, ordinary, not_hasOrdinary_iff.mp others m member ordinary⟩, others⟩
  · rintro ⟨⟨m, member, ordinary, _⟩, others⟩
    exact ⟨⟨m, member, ordinary⟩, others⟩

theorem hasOrdinary_inferred_iff : HasOrdinary d (!d.inferred.isInterface) ↔ IsMixed d := by
  have kind := inferKind_eq_interface_iff (d := d)
  unfold Declaration.isInterface Declaration.inferred Declaration.ofKind
  cases chosen : inferKind d.name d.methods with
  | ordinary =>
    rw [chosen] at kind
    have mixed (pure : HasOrdinary d true) : HasOrdinary d false :=
      Classical.not_not.mp fun others => nomatch kind.mpr ⟨pure, others⟩
    exact ⟨fun pure => ⟨pure, mixed pure⟩, And.left⟩
  | interface =>
    rw [chosen] at kind
    exact iff_of_false (kind.mp rfl).2 fun mixed => (kind.mp rfl).2 mixed.2

theorem malformation?_inferred_eq_none_iff :
    malformation? d.inferred = none ↔ forwardFault? d = none ∧ fieldFault? d = none ∧
      ReturnsFit d ∧ ¬ IsMixed d := by
  rw [malformation?_eq_none_iff, ← hasOrdinary_inferred_iff]
  rfl

theorem findSome?_eq_map_find? {α γ : Type} {fault : α → Option γ} {bad : α → Bool} {told : α → γ}
    {xs : List α} (each : ∀ x ∈ xs, fault x = if bad x then some (told x) else none) :
    xs.findSome? fault = (xs.find? bad).map told := by
  induction xs with
  | nil => rfl
  | cons x rest ih =>
    obtain ⟨here, others⟩ := List.forall_mem_cons.mp each
    rw [List.findSome?_cons, List.find?_cons, here, ih others]
    cases bad x <;> rfl

theorem malformation?_of_class (forward : forwardFault? d = none) (field : fieldFault? d = none)
    (returns : ReturnsFit d) (class_ : d.isInterface = false) :
    malformation? d = (d.methods.find? fun m => isOrdinary d.name m && m.isPure).map fun m =>
      .pureOutsideInterface m.name := by
  rw [malformation?, forward, field, Option.none_or, Option.none_or]
  refine findSome?_eq_map_find? fun m member => ?_
  have returned : (m.returnType.isNone && !mayLackReturn d.name m) = false := by
    simpa using returns m member
  rw [methodFault?, returned, class_]
  cases isOrdinary d.name m <;> cases m.isPure <;> rfl

/-- How the inferred kind of a declaration stands to what is asked of it. -/
structure KindFits (d : Declaration String β) : Prop where
  /-- What is accepted as of some kind is accepted as of the inferred one. -/
  complete : ∀ kind, malformation? (d.ofKind kind) = none → malformation? d.inferred = none
  /-- Where nothing else is wrong, it is refused exactly if its ordinary methods are mixed. -/
  refused_iff : forwardFault? d = none → fieldFault? d = none → ReturnsFit d →
    ((∃ fault, malformation? d.inferred = some fault) ↔ IsMixed d)
  /-- It is then refused for the first ordinary method that is pure. -/
  told : forwardFault? d = none → fieldFault? d = none → ReturnsFit d → IsMixed d →
    malformation? d.inferred =
      (d.methods.find? fun m => isOrdinary d.name m && m.isPure).map fun m =>
        .pureOutsideInterface m.name

theorem kindFits (d : Declaration String β) : KindFits d := by
  constructor
  case complete =>
    intro kind accepted
    obtain ⟨forward, field, returns, alike⟩ := malformation?_eq_none_iff.mp accepted
    refine malformation?_inferred_eq_none_iff.mpr ⟨forward, field, returns, fun mixed => alike ?_⟩
    cases kind with
    | ordinary => exact mixed.1
    | interface => exact mixed.2
  case refused_iff =>
    intro forward field returns
    rw [← Option.isSome_iff_exists, Option.isSome_iff_ne_none, Ne,
      malformation?_inferred_eq_none_iff]
    simp [forward, field, returns]
  case told =>
    intro forward field returns mixed
    refine malformation?_of_class forward field returns ?_
    cases kind : d.inferred.isInterface with
    | false => rfl
    | true => exact absurd mixed.2 (inferKind_eq_interface_iff.mp (beq_iff_eq.mp kind)).2

end Kinds

end Understudy.Cpp

namespace Understudy

open Understudy.Cpp

/-! ## Names of all sorts -/

namespace Cpp.Declaration

def worded (d : Declaration Value) : Declaration String Value :=
  d.mapName fun v => v.text?.getD ""

theorem worded_text (s : Declaration String Value) : (s.mapName Value.text).worded = s := by
  simp [worded, mapName, Method.mapName, Value.text?, Function.comp_def]

theorem eq_mapName_worded {d : Declaration Value} (named : Document.IsText d.name)
    (texts : ∀ m ∈ d.methods, Document.IsText m.name) : d.worded.mapName .text = d := by
  have methods : (d.methods.map fun m =>
      (m.mapName fun v => v.text?.getD "").mapName Value.text) = d.methods := by
    conv_rhs => rw [← List.map_id d.methods]
    refine List.map_congr_left fun m member => ?_
    obtain ⟨name, same⟩ := texts m member
    cases m
    cases same
    rfl
  cases d with
  | mk name kind bases own fields isFull unit =>
    obtain ⟨owner, rfl⟩ := named
    simpa [worded, mapName, Value.text?, Function.comp_def] using methods

end Cpp.Declaration

theorem Value.equal_text (v : Value) (s : String) : v.equal (.text s) = (v == .text s) := by
  rw [Bool.eq_iff_iff, beq_iff_eq]
  constructor
  · intro same
    exact eq_text_of_alike (Bool.and_eq_true_iff.mp same).1
  · rintro rfl
    simp [equal]

namespace Intake

variable {d : Declaration Value}

section Texts

variable (s : Declaration String Value)

theorem forwardRefusal?_text : forwardRefusal? (s.mapName .text) =
    (forwardFault? s).map fun reason => .malformed ⟨.text s.name, reason⟩ := by
  simp only [forwardRefusal?, forwardFault?, Declaration.mapName, List.isEmpty_map]
  split <;> rfl

theorem fieldRefusal?_text : fieldRefusal? (s.mapName .text) =
    (fieldFault? s).map fun reason => .malformed ⟨.text s.name, reason⟩ := by
  simp [fieldRefusal?, fieldFault?, Declaration.mapName, Value.equal_text, bne, Function.comp_def]

theorem methodRefusal?_text : methodRefusal? (s.mapName .text) =
    (s.methods.findSome? (methodFault? s)).map fun reason => .malformed ⟨.text s.name, reason⟩ := by
  have plain := Declaration.worded_text s
  unfold Declaration.worded at plain
  simp only [methodRefusal?, plain]
  rw [List.map_findSome?]
  simp only [Declaration.mapName, List.findSome?_map]
  rfl

theorem refusal?_text : refusal? (s.mapName .text) =
    (malformation? s).map fun reason => .malformed ⟨.text s.name, reason⟩ := by
  rw [refusal?, malformation?, forwardRefusal?_text, fieldRefusal?_text, methodRefusal?_text,
    Option.map_or, Option.map_or]

end Texts

/-- What is accepted has no methods, or is named by texts throughout. -/
theorem texts_of_accepted (accepted : refusal? d = none) :
    d.methods = [] ∨ ∃ s : Declaration String Value, d = s.mapName .text := by
  rw [refusal?, Option.or_eq_none_iff, Option.or_eq_none_iff, methodRefusal?,
    List.findSome?_eq_none_iff] at accepted
  have worded : ∀ m ∈ d.methods, Document.IsText d.name ∧ Document.IsText m.name := by
    intro m member
    have fit := accepted.2.2 m member
    split at fit
    next owner name named called => exact ⟨⟨owner, named⟩, name, called⟩
    next => cases fit
  by_cases bare : d.methods = []
  · exact .inl bare
  · obtain ⟨m, member⟩ := List.exists_mem_of_ne_nil _ bare
    refine .inr ⟨d.worded, ?_⟩
    exact (Declaration.eq_mapName_worded (worded m member).1 fun m member =>
      (worded m member).2).symm

theorem refusal?_ofKind (bare : d.methods = []) (kind : DeclKind) :
    refusal? (d.ofKind kind) = (forwardRefusal? d).or (fieldRefusal? d) := by
  have method : methodRefusal? (d.ofKind kind) = none := by
    rw [methodRefusal?]
    change d.methods.findSome? _ = _
    rw [bare]
    rfl
  rw [refusal?, method, Option.or_none]
  rfl

end Intake

namespace Document

/-! ## Records that state no kind -/

theorem isText_of_text? {v : Value} {s : String} (found : v.text? = some s) : IsText v := by
  cases v with
  | text s => exact ⟨s, rfl⟩
  | _ => cases found

theorem exists_of_mapM_eq_some {α β : Type} {f : α → Option β} {xs : List α} {ys : List β}
    (made : xs.mapM f = some ys) : ∀ x ∈ xs, ∃ y, f x = some y := by
  induction xs generalizing ys with
  | nil => exact List.forall_mem_nil _
  | cons x rest ih =>
    rw [List.mapM_cons] at made
    obtain ⟨y, here, made⟩ := Option.bind_eq_some_iff.mp made
    obtain ⟨others, later, _⟩ := Option.bind_eq_some_iff.mp made
    exact List.forall_mem_cons.mpr ⟨⟨y, here⟩, ih later⟩

theorem inferKindOf_text (s : Declaration String Value) :
    inferKindOf (.text s.name) (s.mapName Value.text).methods =
      .ok (inferKind s.name s.methods) := by
  have worded : ∀ m ∈ (s.mapName Value.text).methods, ∃ name, m.name.text? = some name := by
    simp [Declaration.mapName, Method.mapName, Value.text?]
  obtain ⟨names, found⟩ := exists_mapM_eq_some worded
  rw [inferKindOf, found]
  split
  next empty =>
    have bare : s.methods = [] := by simpa [Declaration.mapName] using empty
    rw [bare]
    rfl
  next =>
    change Except.ok (inferKind s.name (s.mapName Value.text).worded.methods) = _
    rw [Declaration.worded_text]

theorem inferKindOf_cases {d : Declaration Value} {kind : DeclKind}
    (inferred : inferKindOf d.name d.methods = .ok kind) :
    d.methods = [] ∨ ∃ s : Declaration String Value, d = s.mapName .text := by
  unfold inferKindOf at inferred
  split at inferred
  next empty => exact .inl (List.isEmpty_iff.mp empty)
  next =>
    split at inferred
    next owner names named found =>
      refine .inr ⟨d.worded, (Declaration.eq_mapName_worded (isText_of_text? named) ?_).symm⟩
      intro m member
      obtain ⟨name, called⟩ := exists_of_mapM_eq_some found m member
      exact isText_of_text? called
    next => cases inferred

section Reading

variable {unit : Value} {entries : Entries}

def readWith (kindFrom : Value → List (Method Value) → Except RecordFault DeclKind)
    (unit : Value) (entries : Entries) : Except RecordFault (Declaration Value) :=
  require (.object entries) "name" >>= fun name =>
    (partsUnder entries "methods" >>= List.mapM readMethod) >>= fun methods =>
      (partsUnder entries "fields" >>= List.mapM (readField name)) >>= fun members =>
        kindFrom name methods >>= fun kind =>
          partsUnder entries "bases" >>= fun bases =>
            pure { name, kind, bases, methods, unit
                   fields := members
                   isFull := ((Assoc.get? entries "fully_defined").getD (.bool true)).holds }

theorem readWith_eq_ok {kindFrom : Value → List (Method Value) → Except RecordFault DeclKind}
    {d : Declaration Value} (made : readWith kindFrom unit entries = .ok d) :
    kindFrom d.name d.methods = .ok d.kind ∧
      ∀ other kind, other d.name d.methods = .ok kind →
        readWith other unit entries = .ok (d.ofKind kind) := by
  obtain ⟨name, named, made⟩ := exists_of_bind_eq_ok made
  obtain ⟨methods, own, made⟩ := exists_of_bind_eq_ok made
  obtain ⟨members, held, made⟩ := exists_of_bind_eq_ok made
  obtain ⟨kind, found, made⟩ := exists_of_bind_eq_ok made
  obtain ⟨bases, under, made⟩ := exists_of_bind_eq_ok made
  cases made
  refine ⟨found, fun other kind found => ?_⟩
  rw [readWith, named, own]
  change ((partsUnder entries "fields" >>= List.mapM (readField name)) >>= _) = _
  rw [held]
  change (other name methods >>= _) = _
  rw [found, under]
  rfl

theorem readDeclaration_eq_readWith (unit : Value) (entries : Entries) :
    readDeclaration unit (.object entries) = readWith (readKind entries) unit entries :=
  readDeclaration_object unit entries

def stating (kind : DeclKind) (entries : Entries) : Entries :=
  entries.set "kind" (.text kind.keyword)

theorem readDeclaration_stating (unit : Value) (entries : Entries) (kind : DeclKind) :
    readDeclaration unit (.object (stating kind entries)) =
      readWith (fun _ _ => .ok kind) unit entries := by
  have elsewhere {key : String} (other : key ≠ "kind") :
      (stating kind entries).get? key = entries.get? key := Assoc.get?_set_ne _ _ other
  have parts {key : String} (other : key ≠ "kind") :
      partsUnder (stating kind entries) key = partsUnder entries key := by
    rw [partsUnder, partsUnder, elsewhere other]
  have stated : readKind (stating kind entries) = fun _ _ => .ok kind := by
    funext name methods
    rw [readKind, stating, Assoc.get?_set_self]
    dsimp only
    rw [kindOf?_eq_some.mpr rfl]
    rfl
  rw [readDeclaration_eq_readWith, readWith, readWith, stated, require, require,
    elsewhere (by decide), elsewhere (by decide), parts (by decide), parts (by decide),
    parts (by decide)]

theorem readDeclaration_of_unstated (unit : Value) (unstated : entries.get? "kind" = none) :
    readDeclaration unit (.object entries) = readWith inferKindOf unit entries := by
  rw [readDeclaration_eq_readWith]
  congr 1
  funext name methods
  rw [readKind, unstated]

/-- How a record that states no kind is read, and what becomes of it. -/
structure ReadsFitKind (unit : Value) (entries : Entries) : Prop where
  /-- It is read as one of the inferred kind. -/
  inferred : ∀ d, readDeclaration unit (.object entries) = .ok d →
    inferKindOf d.name d.methods = .ok d.kind
  /-- If it is accepted with some kind stated, it is accepted as it stands. -/
  complete : ∀ kind d, readDeclaration unit (.object (stating kind entries)) = .ok d →
    Intake.refusal? d = none →
      ∃ e, readDeclaration unit (.object entries) = .ok e ∧ e = d.ofKind e.kind ∧
        Intake.refusal? e = none
  /-- Where nothing else is wrong, it is refused exactly if its ordinary methods are mixed. -/
  refused_iff : ∀ d, readDeclaration unit (.object entries) = .ok d →
    Intake.forwardRefusal? d = none → Intake.fieldRefusal? d = none → ReturnsFit d.worded →
      ((∃ fault, Intake.refusal? d = some fault) ↔ IsMixed d.worded)

theorem readsFitKind (unit : Value) (unstated : entries.get? "kind" = none) :
    ReadsFitKind unit entries := by
  have unread := readDeclaration_of_unstated unit unstated
  constructor
  case inferred =>
    intro d made
    rw [unread] at made
    exact (readWith_eq_ok made).1
  case complete =>
    intro kind d made accepted
    rw [readDeclaration_stating] at made
    obtain ⟨_, again⟩ := readWith_eq_ok made
    rw [unread]
    -- Without methods no kind matters, and where all names are texts it is the
    -- declaration that counts.
    rcases Intake.texts_of_accepted accepted with bare | ⟨s, rfl⟩
    · have inferred : inferKindOf d.name d.methods = .ok .ordinary := by
        rw [bare]
        rfl
      refine ⟨_, again _ _ inferred, rfl, ?_⟩
      rw [Intake.refusal?_ofKind bare, ← Intake.refusal?_ofKind bare d.kind]
      exact accepted
    · refine ⟨_, again _ _ (inferKindOf_text s), rfl, ?_⟩
      have sound : malformation? s = none := by
        rw [Intake.refusal?_text] at accepted
        exact Option.map_eq_none_iff.mp accepted
      have fit := (kindFits s).complete s.kind sound
      have refused := Intake.refusal?_text s.inferred
      rw [fit] at refused
      exact refused
  case refused_iff =>
    intro d made forward field returns
    rw [unread] at made
    obtain ⟨inferred, _⟩ := readWith_eq_ok made
    rcases inferKindOf_cases inferred with bare | ⟨s, rfl⟩
    · have accepted : Intake.refusal? d = none := by
        have parts := Intake.refusal?_ofKind bare d.kind
        rw [forward, field] at parts
        exact parts
      rw [accepted]
      refine iff_of_false (by simp) ?_
      rintro ⟨⟨m, member, _⟩, _⟩
      simp [Declaration.worded, Declaration.mapName, bare] at member
    · -- The kind that was read is the one that follows from the methods.
      have kind : inferKind s.name s.methods = s.kind :=
        Except.ok.inj ((inferKindOf_text s).symm.trans inferred)
      have same : s.inferred = s := by
        rw [Declaration.inferred, kind]
        rfl
      rw [Intake.forwardRefusal?_text, Option.map_eq_none_iff] at forward
      rw [Intake.fieldRefusal?_text, Option.map_eq_none_iff] at field
      rw [Declaration.worded_text] at returns ⊢
      rw [← (kindFits s).refused_iff forward field returns, same, Intake.refusal?_text]
      simp

end Reading

/-- The inferred kind is accepted wherever any kind is, for declarations as for records that state
none, whatever their names; and only where ordinary methods are mixed is it to blame. -/
theorem fitsInferredKind :
    (∀ (β : Type) (d : Declaration String β), KindFits d) ∧
      ∀ (unit : Value) (entries : Entries), entries.get? "kind" = none → ReadsFitKind unit entries :=
  ⟨fun _ => kindFits, fun unit _ unstated => readsFitKind unit unstated⟩

/-- A record with special members of all sorts, which do not count, and ordinary methods. -/
def withSpecialMembers (ordinary : List Value) : Entries :=
  let special : List Value :=
    [.object [("name", .text "Simple"), ("return", .null)],
     .object [("name", .text "Simple"), ("params", .list [.text "const ns::Simple&"])],
     .object [("name", .text "~Simple"), ("pure_virtual", .bool true)],
     .object [("name", .text "operator="), ("return", .text "Simple&")]]
  [("name", .text "ns::Simple"), ("methods", .list (special ++ ordinary))]

/-- A pure method makes an interface, and a second one that is not makes what nothing is. -/
theorem fitsInferredKind_specialMembers :
    let method (name : String) (isPure : Bool) : Value :=
      .object [("name", .text name), ("return", .text "void"), ("pure_virtual", .bool isPure)]
    let pure := withSpecialMembers [method "f" true]
    let mixed := withSpecialMembers [method "f" true, method "g" false]
    (ReadsFitKind .null pure ∧ ∃ d, readDeclaration .null (.object pure) = .ok d ∧
      d.kind = .interface ∧ Intake.refusal? d = none) ∧
    (ReadsFitKind .null mixed ∧ ∃ d, readDeclaration .null (.object mixed) = .ok d ∧
      KindFits d.worded ∧ IsMixed d.worded ∧ d.kind = .ordinary ∧
        Intake.refusal? d = some (.malformed ⟨.text "ns::Simple", .pureOutsideInterface "f"⟩)) := by
  intro method pure mixed
  obtain ⟨fits, reads⟩ := fitsInferredKind
  refine ⟨⟨reads .null pure rfl, ?_⟩, reads .null mixed rfl, ?_⟩
  · have read : ((readDeclaration .null (.object pure)).toOption.map fun d =>
        (d.kind, Intake.refusal? d)) = some (.interface, none) := by decide +kernel
    obtain ⟨d, made, same⟩ := Option.map_eq_some_iff.mp read
    obtain ⟨kind, accepted⟩ := Prod.mk.inj same
    exact ⟨d, eq_ok_of_toOption made, kind, accepted⟩
  · have read : ((readDeclaration .null (.object mixed)).toOption.map fun d =>
        (decide (IsMixed d.worded), d.kind, Intake.refusal? d)) =
          some (true, .ordinary,
            some (.malformed ⟨.text "ns::Simple", .pureOutsideInterface "f"⟩)) := by
      decide +kernel
    obtain ⟨d, made, same⟩ := Option.map_eq_some_iff.mp read
    obtain ⟨both, same⟩ := Prod.mk.inj same
    obtain ⟨kind, refused⟩ := Prod.mk.inj same
    exact ⟨d, eq_ok_of_toOption made, fits _ _, of_decide_eq_true both, kind, refused⟩

end Document
end Understudy
