import Understudy.Proofs.Document.Shape

/-! Reading the records of unit documents.

Every reader is followed along the shape of what it reads. Main statements: a type, a declaration,
a call or a body is read exactly if it is sound, what is read corresponds to it, and for any other
the reader fails with a fault that can be told.
-/

set_option autoImplicit false

namespace Understudy.Document

open Understudy.Cpp

variable {entries : Entries} {key : String}

/-! ## Outcomes -/

def RecordFault.isTold : RecordFault → Bool
  | .slip _ => false
  | _ => true

/-- The outcome of reading something: what fits it if it is sound, and if not a fault that can be
told. -/
inductive Reads {α : Type} (sound : Prop) (fits : α → Prop) : Except RecordFault α → Prop where
  | ok {x : α} (holds : sound) (fit : fits x) : Reads sound fits (.ok x)
  | error {fault : RecordFault} (told : fault.isTold = true) (unsound : ¬ sound) :
      Reads sound fits (.error fault)

section Reads

variable {α β : Type} {p q : Prop} {F : α → Prop} {G : β → Prop}

theorem Reads.imp {F' : α → Prop} {outcome : Except RecordFault α} (reads : Reads p F outcome)
    (same : p ↔ q) (fits : ∀ x, F x → F' x) : Reads q F' outcome := by
  cases reads with
  | ok holds fit => exact .ok (same.mp holds) (fits _ fit)
  | error told unsound => exact .error told (unsound ∘ same.mpr)

theorem Reads.of_iff {outcome : Except RecordFault α} (reads : Reads p F outcome)
    (same : p ↔ q) : Reads q F outcome :=
  reads.imp same fun _ => id

theorem Reads.bind {first : Except RecordFault α} {next : α → Except RecordFault β}
    (reads : Reads p F first) (later : ∀ x, F x → Reads q G (next x)) :
    Reads (p ∧ q) G (first >>= next) := by
  cases reads with
  | @ok x holds fit =>
    change Reads (p ∧ q) G (next x)
    exact (later x fit).of_iff ⟨fun sound => ⟨holds, sound⟩, And.right⟩
  | error told unsound => exact .error told fun both => unsound both.1

theorem Reads.map {outcome : Except RecordFault α} {f : α → β} (reads : Reads p F outcome)
    (fits : ∀ x, F x → G (f x)) : Reads p G (outcome >>= fun x => pure (f x)) := by
  cases reads with
  | ok holds fit => exact .ok holds (fits _ fit)
  | error told unsound => exact .error told unsound

theorem Reads.mapM {P : Value → Prop} {R : Value → α → Prop} {f : Value → Except RecordFault α}
    {items : List Value} (each : ∀ v ∈ items, Reads (P v) (R v) (f v)) :
    Reads (∀ v ∈ items, P v) (List.Forall₂ R items) (items.mapM f) := by
  induction items with
  | nil => exact .ok (List.forall_mem_nil _) .nil
  | cons v rest ih =>
    obtain ⟨here, others⟩ := List.forall_mem_cons.mp each
    rw [List.mapM_cons]
    refine (here.bind fun x fit => (ih others).map (G := List.Forall₂ R (v :: rest))
      fun xs fits => ?_).of_iff List.forall_mem_cons.symm
    exact .cons fit fits

end Reads

theorem require_reads (entries : Entries) (key : String) :
    Reads (entries.has key = true) (fun v => entries.get? key = some v)
      (require (.object entries) key) := by
  rw [require, Assoc.has]
  cases found : entries.get? key with
  | none => exact .error rfl (by simp)
  | some v => exact .ok rfl rfl

theorem partsUnder_of_holdsList (list : HoldsList entries key) :
    partsUnder entries key = .ok (itemsUnder entries key) := by
  rw [partsUnder, itemsUnder]
  cases found : entries.get? key with
  | none => rfl
  | some v =>
    obtain ⟨items, rfl⟩ := list v found
    rfl

theorem itemsUnder_reads {α : Type} {P : Value → Prop} {R : Value → α → Prop}
    {f : Value → Except RecordFault α} (list : HoldsList entries key)
    (each : ∀ v ∈ itemsUnder entries key, Reads (P v) (R v) (f v)) :
    Reads (∀ v ∈ itemsUnder entries key, P v) (List.Forall₂ R (itemsUnder entries key))
      (partsUnder entries key >>= List.mapM f) := by
  rw [partsUnder_of_holdsList list]
  exact Reads.mapM each

theorem recordsUnder_reads {α : Type} {Shape P : Entries → Prop} {R : Entries → α → Prop}
    {f : Value → Except RecordFault α} (list : HoldsList entries key)
    (shapes : ∀ v ∈ itemsUnder entries key, IsRecord Shape v)
    (each : ∀ entries, Shape entries → Reads (P entries) (R entries) (f (.object entries))) :
    Reads (∀ v ∈ itemsUnder entries key, IsRecord P v)
      (List.Forall₂ (fun v x => IsRecord (R · x) v) (itemsUnder entries key))
      (partsUnder entries key >>= List.mapM f) := by
  refine itemsUnder_reads list fun v member => ?_
  have shape := shapes v member
  cases v with
  | object inner => exact each inner shape
  | _ => cases shape

/-! ## Types -/

theorem readTypeUnder_of_get? {v : Value} (found : entries.get? key = some v) :
    readTypeUnder key entries = readType v := by
  induction entries with
  | nil => cases found
  | cons e rest ih =>
    unfold Assoc.get? at found
    unfold readTypeUnder
    split at found
    next same =>
      cases found
      exact if_pos same
    next apart =>
      rw [if_neg apart]
      exact ih found

theorem exists_map_iff {α β ε : Type} {outcome : Except ε α} {f : α → β} :
    (∃ y, outcome.map f = .ok y) ↔ ∃ x, outcome = .ok x := by
  cases outcome with
  | error fault => exact iff_of_false nofun nofun
  | ok x => exact iff_of_true ⟨_, rfl⟩ ⟨_, rfl⟩

theorem exists_readType_object (entries : Entries) : (∃ t, readType (.object entries) = .ok t) ↔
    tagsBase entries = true ∨ ∃ v, wrapped? entries = some v ∧ ∃ t, readType v = .ok t := by
  cases primitive : entries.get? "primitive" with
  | some name => simp [readType, tagsBase, Assoc.has, primitive]
  | none =>
    cases named : entries.get? "named" with
    | some name => simp [readType, tagsBase, Assoc.has, primitive, named]
    | none =>
      cases pointer : entries.get? "pointer" with
      | some v =>
        simp [readType, tagsBase, wrapped?, Assoc.has, primitive, named, pointer,
          readTypeUnder_of_get? pointer, exists_map_iff]
      | none =>
        cases reference : entries.get? "reference" with
        | some v =>
          simp [readType, tagsBase, wrapped?, Assoc.has, primitive, named, pointer, reference,
            readTypeUnder_of_get? reference, exists_map_iff]
        | none =>
          simp [readType, tagsBase, wrapped?, Assoc.has, primitive, named, pointer, reference]

theorem exists_readType_iff (v : Value) : (∃ t, readType v = .ok t) ↔ IsType v := by
  -- A type record is an object around another type, so the induction goes through objects only.
  induction v using Value.induction_on_object with
  | plain v plain =>
    cases v with
    | text s =>
      rw [readType, exists_parseType_iff]
      refine ⟨.spelled, ?_⟩
      rintro ⟨sequence⟩
      exact sequence
    | object => cases plain
    | _ =>
      constructor
      · rintro ⟨_, ⟨⟩⟩
      · rintro ⟨⟩
  | object entries inner =>
    have known : ∀ v, wrapped? entries = some v → ((∃ t, readType v = .ok t) ↔ IsType v) := by
      intro v wraps
      rcases Option.or_eq_some_iff.mp wraps with found | ⟨_, found⟩ <;> exact inner _ v found
    rw [exists_readType_object]
    constructor
    · rintro (tag | ⟨v, wraps, read⟩)
      · exact .tagged tag
      · exact .wrapping wraps ((known v wraps).mp read)
    · rintro (_ | tag | ⟨wraps, inner⟩)
      · exact .inl tag
      · exact .inr ⟨_, wraps, (known _ wraps).mpr inner⟩

theorem typeOf_reads (v : Value) : Reads (IsType v) (fun t => readType v = .ok t) (typeOf v) := by
  have iff := exists_readType_iff v
  rw [typeOf]
  cases read : readType v with
  | ok t => exact .ok (iff.mp ⟨t, read⟩) rfl
  | error fault =>
    refine .error rfl fun sound => ?_
    obtain ⟨t, made⟩ := iff.mpr sound
    rw [read] at made
    cases made

theorem requireType_reads (entries : Entries) (key : String) :
    Reads (HasType entries key) (TypeUnder entries key)
      (require (.object entries) key >>= typeOf) := by
  rw [require, HasType]
  unfold TypeUnder
  cases found : entries.get? key with
  | none => exact .error rfl (by simp)
  | some v => exact (typeOf_reads v).imp (by simp) fun t read => ⟨v, rfl, read⟩

/-! ## Members -/

theorem readParameter_reads {v : Value} (shape : IsText v ∨ IsRecord (fun _ => True) v) :
    Reads (IsParameter v) (ParameterOf v) (readParameter v) := by
  rcases shape with ⟨s, rfl⟩ | object
  · have reads : Reads (IsType (.text s)) (ParameterOf (.text s)) (readParameter (.text s)) :=
      (typeOf_reads (.text s)).map fun t read => .spelled (by rwa [readType] at read)
    refine reads.of_iff ⟨.spelled, ?_⟩
    rintro ⟨type⟩
    exact type
  · cases v with
    | object entries =>
      have reads : Reads (HasType entries "type") (ParameterOf (.object entries))
          ((require (.object entries) "type" >>= typeOf) >>= fun t =>
            pure ⟨t, (Assoc.get? entries "name").getD .null⟩) :=
        (requireType_reads entries "type").map fun t read => .object read
      rw [bind_assoc] at reads
      refine reads.of_iff ⟨.object, ?_⟩
      rintro (_ | ⟨type⟩)
      exact type
    | _ => cases object

theorem visibilityOf?_eq_some {v : Value} {x : Visibility} :
    visibilityOf? v = some x ↔ v = .text x.keyword := by
  constructor
  · intro known
    unfold visibilityOf? at known
    split at known <;> cases known <;> rfl
  · rintro rfl
    cases x <;> rfl

theorem kindOf?_eq_some {v : Value} {k : DeclKind} :
    kindOf? v = some k ↔ v = .text k.keyword := by
  constructor
  · intro known
    unfold kindOf? at known
    split at known <;> cases known <;> rfl
  · rintro rfl
    cases k <;> rfl

def readReturn : Value → Except RecordFault (Option SemanticType)
  | .null => pure none
  | v => some <$> typeOf v

theorem readReturn_reads (v : Value) :
    Reads (v = .null ∨ IsType v) (ReturnOf v) (readReturn v) := by
  by_cases nothing : v = .null
  · subst nothing
    exact .ok (.inl rfl) .none
  · have reads : Reads (IsType v) (ReturnOf v) (some <$> typeOf v) := by
      rw [map_eq_pure_bind]
      exact (typeOf_reads v).map fun t read => .some read
    have plain : readReturn v = some <$> typeOf v := by
      cases v with
      | null => exact absurd rfl nothing
      | _ => rfl
    rw [plain]
    exact reads.of_iff (or_iff_right nothing).symm

/-- Where a default is as it is to be, what stands under a key or else the default is so exactly if
whatever stands there is. -/
theorem getD_iff {P : Value → Prop} {default : Value} (usual : P default) :
    P ((entries.get? key).getD default) ↔ ∀ v, entries.get? key = some v → P v := by
  cases entries.get? key with
  | none => simpa using usual
  | some v => simp

theorem readMethod_object (entries : Entries) : readMethod (.object entries) =
    match visibilityOf? ((Assoc.get? entries "visibility").getD (.text "public")) with
    | none => .error (.visibility ((Assoc.get? entries "name").getD .null))
    | some visibility =>
      require (.object entries) "name" >>= fun name =>
        (partsUnder entries "params" >>= List.mapM readParameter) >>= fun parameters =>
          readReturn ((Assoc.get? entries "return").getD .null) >>= fun returnType =>
            pure { name, parameters, returnType, visibility
                   isPure := flagUnder entries "pure_virtual"
                   isConst := flagUnder entries "const" } := by
  change (match visibilityOf? ((Assoc.get? entries "visibility").getD (.text "public")) with
    | none => _
    | some visibility => _) = _
  cases visibilityOf? ((Assoc.get? entries "visibility").getD (.text "public")) with
  | none => rfl
  | some visibility =>
    dsimp only
    refine bind_congr fun name => ?_
    rw [bind_assoc]
    refine bind_congr fun parts => bind_congr fun parameters => ?_
    cases (Assoc.get? entries "return").getD .null <;> rfl

theorem readMethod_reads (shape : HasMethodShape entries) :
    Reads (IsMethod entries) (MethodOf entries) (readMethod (.object entries)) := by
  rw [readMethod_object]
  -- The visibility is looked at before anything else, even before the name.
  have stated : (∃ x : Visibility, (entries.get? "visibility").getD (.text "public") =
      .text x.keyword) ↔
        ∀ v, entries.get? "visibility" = some v → ∃ x : Visibility, v = .text x.keyword :=
    getD_iff (P := fun v => ∃ x : Visibility, v = .text x.keyword) ⟨.public, rfl⟩
  cases seen : visibilityOf? ((Assoc.get? entries "visibility").getD (.text "public")) with
  | none =>
    refine .error rfl fun sound => ?_
    obtain ⟨x, same⟩ := stated.mpr sound.visibility
    rw [visibilityOf?_eq_some.mpr same] at seen
    cases seen
  | some visibility =>
    have visible := visibilityOf?_eq_some.mp seen
    have reads := (require_reads entries "name").bind fun name named =>
      (itemsUnder_reads shape.params fun v member =>
        readParameter_reads (shape.eachParam v member)).bind fun parameters params =>
          (readReturn_reads ((Assoc.get? entries "return").getD .null)).map
            (G := MethodOf entries)
            (f := fun returnType => { name, parameters, returnType, visibility
                                      isPure := flagUnder entries "pure_virtual"
                                      isConst := flagUnder entries "const" })
            fun returnType returns => ⟨named, params, returns, visible, rfl, rfl⟩
    refine reads.of_iff ?_
    rw [getD_iff (P := fun v => v = .null ∨ IsType v) (.inl rfl)]
    constructor
    · rintro ⟨name, params, returns⟩
      exact ⟨name, stated.mp ⟨visibility, visible⟩, params, returns⟩
    · exact fun sound => ⟨sound.name, sound.params, sound.returns⟩

theorem readField_reads (owner : Value) (entries : Entries) :
    Reads (IsField entries) (FieldOf owner entries) (readField owner (.object entries)) := by
  have reads := (require_reads entries "name").bind fun name named =>
    (requireType_reads entries "type").map (G := FieldOf owner entries)
      (f := fun type => ⟨name, type, owner⟩) fun type typed => ⟨named, typed, rfl⟩
  simp only [bind_assoc] at reads
  exact reads.of_iff
    ⟨fun ⟨name, type⟩ => ⟨name, type⟩, fun sound => ⟨sound.name, sound.type⟩⟩

/-! ## Declarations -/

theorem forall_mem_of_forall₂ {α β : Type} {R : α → β → Prop} {P : α → Prop} {Q : β → Prop}
    {xs : List α} {ys : List β} (related : List.Forall₂ R xs ys)
    (each : ∀ x y, R x y → P x → Q y) (all : ∀ x ∈ xs, P x) : ∀ y ∈ ys, Q y := by
  induction related with
  | nil => exact List.forall_mem_nil _
  | cons first _ ih =>
    obtain ⟨here, others⟩ := List.forall_mem_cons.mp all
    exact List.forall_mem_cons.mpr ⟨each _ _ first here, ih others⟩

theorem isText_of_methodOf {items : List Value} {methods : List (Method Value)}
    (read : List.Forall₂ (fun v m => IsRecord (MethodOf · m) v) items methods)
    (shapes : ∀ v ∈ items, IsRecord HasMethodShape v) : ∀ m ∈ methods, IsText m.name := by
  refine forall_mem_of_forall₂ read (fun v m made shape => ?_) shapes
  cases v with
  | object entries => exact shape.name _ made.name
  | _ => cases shape

theorem exists_mapM_eq_some {α β : Type} {f : α → Option β} {xs : List α}
    (each : ∀ x ∈ xs, ∃ y, f x = some y) : ∃ ys, xs.mapM f = some ys := by
  induction xs with
  | nil => exact ⟨[], rfl⟩
  | cons x rest ih =>
    obtain ⟨⟨y, first⟩, others⟩ := List.forall_mem_cons.mp each
    obtain ⟨ys, later⟩ := ih others
    refine ⟨y :: ys, ?_⟩
    rw [List.mapM_cons, first, later]
    rfl

theorem exists_text? {v : Value} (text : IsText v) : ∃ s, v.text? = some s := by
  obtain ⟨s, rfl⟩ := text
  exact ⟨s, rfl⟩

theorem exists_inferKindOf {name : Value} {methods : List (Method Value)} (named : IsText name)
    (texts : ∀ m ∈ methods, IsText m.name) : ∃ kind, inferKindOf name methods = .ok kind := by
  obtain ⟨owner, rfl⟩ := named
  unfold inferKindOf
  split
  next => exact ⟨_, rfl⟩
  next =>
    obtain ⟨names, same⟩ := exists_mapM_eq_some (f := fun m : Method Value => m.name.text?)
      fun m member => exists_text? (texts m member)
    rw [same]
    exact ⟨_, rfl⟩

def readKind (entries : Entries) (name : Value) (methods : List (Method Value)) :
    Except RecordFault DeclKind :=
  match entries.get? "kind" with
  | none => inferKindOf name methods
  | some word =>
    match kindOf? word with
    | some kind => pure kind
    | none => .error (.kind name)

theorem readKind_reads (entries : Entries) {name : Value} {methods : List (Method Value)}
    (named : IsText name) (texts : ∀ m ∈ methods, IsText m.name) :
    Reads (∀ v, entries.get? "kind" = some v → ∃ k : DeclKind, v = .text k.keyword)
      (fun kind => match entries.get? "kind" with
        | some v => v = .text kind.keyword
        | none => inferKindOf name methods = .ok kind)
      (readKind entries name methods) := by
  rw [readKind]
  cases entries.get? "kind" with
  | none =>
    obtain ⟨kind, inferred⟩ := exists_inferKindOf named texts
    dsimp only
    rw [inferred]
    exact .ok (by simp) rfl
  | some word =>
    dsimp only
    cases known : kindOf? word with
    | some kind =>
      have same := kindOf?_eq_some.mp known
      exact .ok (fun v found => ⟨kind, (Option.some.inj found) ▸ same⟩) same
    | none =>
      refine .error rfl fun sound => ?_
      obtain ⟨k, same⟩ := sound word rfl
      rw [kindOf?_eq_some.mpr same] at known
      cases known

theorem readDeclaration_object (unit : Value) (entries : Entries) :
    readDeclaration unit (.object entries) =
      require (.object entries) "name" >>= fun name =>
        (partsUnder entries "methods" >>= List.mapM readMethod) >>= fun methods =>
          (partsUnder entries "fields" >>= List.mapM (readField name)) >>= fun members =>
            readKind entries name methods >>= fun kind =>
              partsUnder entries "bases" >>= fun bases =>
                pure { name, kind, bases, methods, unit
                       fields := members
                       isFull := ((Assoc.get? entries "fully_defined").getD (.bool true)).holds } := by
  refine bind_congr fun name => ?_
  change partsUnder entries "methods" >>= _ = _
  rw [bind_assoc]
  refine bind_congr fun parts => bind_congr fun methods => ?_
  rw [bind_assoc]
  refine bind_congr fun parts => bind_congr fun members => ?_
  rw [readKind]
  cases Assoc.get? entries "kind" with
  | none => rfl
  | some word =>
    dsimp only
    cases kindOf? word <;> rfl

theorem readDeclaration_reads (unit : Value) (shape : HasDeclarationShape entries) :
    Reads (IsDeclaration entries) (DeclarationOf unit entries)
      (readDeclaration unit (.object entries)) := by
  rw [readDeclaration_object, partsUnder_of_holdsList shape.bases]
  -- That kinds can be inferred needs the methods that were read before, whose names are texts.
  have reads := (require_reads entries "name").bind fun name named =>
    (recordsUnder_reads shape.methods shape.eachMethod fun _ => readMethod_reads).bind
      fun methods made =>
        (recordsUnder_reads shape.fields shape.eachField fun inner _ =>
          readField_reads name inner).bind fun members held =>
            (readKind_reads entries (shape.name name named)
              (isText_of_methodOf made shape.eachMethod)).map (G := DeclarationOf unit entries)
                (f := fun kind =>
                  { name, kind, methods, unit
                    bases := itemsUnder entries "bases"
                    fields := members
                    isFull := ((Assoc.get? entries "fully_defined").getD (.bool true)).holds })
                fun kind stated => ⟨named, stated, rfl, made, held, rfl, rfl⟩
  refine reads.of_iff ⟨?_, ?_⟩
  · exact fun ⟨name, methods, fields, kind⟩ => ⟨name, kind, methods, fields⟩
  · exact fun sound => ⟨sound.name, sound.methods, sound.fields, sound.kind⟩

/-! ## Calls and bodies -/

theorem constructOf?_eq_some {v : Value} {c : Construct} :
    constructOf? v = some c ↔ v = .text c.keyword := by
  constructor
  · intro known
    cases v with
    | text word =>
      have same : c.keyword = word := by simpa using List.find?_some known
      rw [same]
    | _ => cases known
  · rintro rfl
    exact Construct.ofKeyword?_keyword c

theorem isSome_constructOf?_iff {v : Value} :
    (constructOf? v).isSome = true ↔ ∃ c : Construct, v = .text c.keyword := by
  simp only [Option.isSome_iff_exists, constructOf?_eq_some]

theorem map_filterMap_constructOf? {words : List Value}
    (known : ∀ v ∈ words, ∃ c : Construct, v = .text c.keyword) :
    words = (words.filterMap constructOf?).map fun c => .text c.keyword := by
  induction words with
  | nil => rfl
  | cons v rest ih =>
    obtain ⟨⟨c, rfl⟩, others⟩ := List.forall_mem_cons.mp known
    rw [List.filterMap_cons_some (constructOf?_eq_some.mpr rfl), List.map_cons, ← ih others]

theorem readConstructs_reads (list : HoldsList entries "constructs") :
    Reads (∀ v ∈ itemsUnder entries "constructs", ∃ c : Construct, v = .text c.keyword)
      (fun constructs => itemsUnder entries "constructs" =
        constructs.map fun c => .text c.keyword)
      (readConstructs entries (require (.object entries) "callee")) := by
  rw [readConstructs, partsUnder_of_holdsList list]
  dsimp only [Bind.bind, Except.bind]
  split
  next all =>
    have known : ∀ v ∈ itemsUnder entries "constructs", ∃ c : Construct, v = .text c.keyword := by
      simpa [isSome_constructOf?_iff, ← Option.isSome_iff_ne_none] using all
    exact .ok known (map_filterMap_constructOf? known)
  next some =>
    have unsound : ¬ ∀ v ∈ itemsUnder entries "constructs",
        ∃ c : Construct, v = .text c.keyword := by
      intro known
      refine some ?_
      simpa [isSome_constructOf?_iff, ← Option.isSome_iff_ne_none] using known
    -- The message tells the callee, so that a call without one is told of that instead.
    have callee := require_reads entries "callee"
    cases required : require (.object entries) "callee" with
    | ok v => exact .error rfl unsound
    | error fault =>
      rw [required] at callee
      cases callee with
      | error told _ => exact .error told unsound

theorem readCallItems_eq (items : List Value) : readCallItems items = items.mapM readCall := by
  induction items with
  | nil => rfl
  | cons v rest ih =>
    rw [readCallItems, List.mapM_cons, ih]

theorem readCallsUnder_eq (key : String) (entries : Entries) :
    readCallsUnder key entries =
      match entries.get? key with
      | none => .ok []
      | some v => readCalls v := by
  induction entries with
  | nil => rfl
  | cons e rest ih =>
    unfold readCallsUnder Assoc.get?
    split
    next => rfl
    next => exact ih

theorem readCallsUnder_of_holdsList (list : HoldsList entries key) :
    readCallsUnder key entries = (itemsUnder entries key).mapM readCall := by
  rw [readCallsUnder_eq, itemsUnder]
  cases found : entries.get? key with
  | none => rfl
  | some v =>
    obtain ⟨items, rfl⟩ := list v found
    exact readCallItems_eq items

theorem readCall_reads {v : Value} (shape : HasCallShape v) :
    Reads (IsCall v) (CallOf v) (readCall v) := by
  -- The shape of a call has the shapes of the calls in its arguments, at every depth.
  induction shape with
  | text s => exact .ok (.text s) (.text s)
  | @object entries constructs arguments _ each =>
    have reads := (readConstructs_reads constructs).bind fun around known =>
      (require_reads entries "callee").bind fun callee named =>
        (Reads.mapM each).map (G := CallOf (.object entries))
          (f := fun inside => .mk callee around inside) fun inside made =>
            .object named known made
    rw [← readCallsUnder_of_holdsList arguments] at reads
    refine reads.of_iff ⟨?_, ?_⟩
    · exact fun ⟨constructs, callee, arguments⟩ => .object callee constructs arguments
    · rintro (_ | ⟨callee, constructs, arguments⟩)
      exact ⟨constructs, callee, arguments⟩

theorem readBody_reads (unit : Value) (shape : HasBodyShape entries) :
    Reads (IsBody entries) (BodyOf unit entries) (readBody unit (.object entries)) := by
  have reads : Reads _ (BodyOf unit entries) (require (.object entries) "name" >>= fun name =>
      bodyKindOf name >>= fun usual => readCallsUnder "calls" entries >>= fun calls =>
        pure { name, kind := (Assoc.get? entries "kind").getD usual, calls, unit }) :=
    (require_reads entries "name").bind
      (q := ∀ v ∈ itemsUnder entries "calls", IsCall v) fun name named => by
        obtain ⟨s, rfl⟩ := shape.name name named
        rw [readCallsUnder_of_holdsList shape.calls]
        exact (Reads.mapM fun v member => readCall_reads (shape.each v member)).map
          fun calls made => ⟨named, ⟨s, rfl, rfl⟩, made, rfl⟩
  exact reads.of_iff
    ⟨fun ⟨name, calls⟩ => ⟨name, calls⟩, fun sound => ⟨sound.name, sound.calls⟩⟩

end Understudy.Document
