import Understudy.Proofs.Document.Record

/-! Reading unit documents.

Main statement: a document that has the shape of a unit is read exactly if it is sound, and if it is
not, what is wrong is told. The unit holds the records of the document one by one, and no field
belongs to another declaration than the one that it was read with.
-/

set_option autoImplicit false

namespace Understudy.Document

open Understudy.Cpp

variable {entries : Entries}

/-! ## Units -/

theorem exists_message?_of_told {unit : Value} {fault : RecordFault}
    (told : fault.isTold = true) :
    ∃ message, (UnitFault.record unit fault).message? = some message := by
  cases fault with
  | slip => cases told
  | _ => exact ⟨_, rfl⟩

def readRecords (name : Value) (entries : Entries) : Except RecordFault (UnitRecord Value) := do
  let declarations ← (← partsUnder entries "declarations").mapM (readDeclaration name)
  let bodies ← (← partsUnder entries "bodies").mapM (readBody name)
  return { name, declarations, bodies, header := (Assoc.get? entries "header").getD .null }

theorem readUnit_object (entries : Entries) (default : Option String) :
    readUnit (.object entries) (defaultName default) =
      if !(unitName entries default).holds then .error .unnamed
      else (readRecords (unitName entries default) entries).mapError
        (.record (unitName entries default)) := rfl

theorem readRecords_reads (name : Value) (shape : HasUnitShape entries) :
    Reads ((∀ v ∈ itemsUnder entries "declarations", IsRecord IsDeclaration v) ∧
        ∀ v ∈ itemsUnder entries "bodies", IsRecord IsBody v)
      (UnitOf name entries) (readRecords name entries) := by
  have reads := (recordsUnder_reads shape.declarations shape.eachDeclaration fun _ =>
    readDeclaration_reads name).bind fun declarations declared =>
      (recordsUnder_reads shape.bodies shape.eachBody fun _ => readBody_reads name).map
        (G := UnitOf name entries)
        (f := fun bodies => { name, declarations, bodies
                              header := (Assoc.get? entries "header").getD .null })
        fun bodies made => ⟨rfl, declared, made, rfl⟩
  simpa only [readRecords, bind_assoc] using reads

theorem holds_unitName (shape : HasUnitShape entries) (default : Option String) :
    (unitName entries default).holds = true ↔
      ∃ s, unitName entries default = .text s ∧ s ≠ "" := by
  have plain : unitName entries default = .null ∨ IsText (unitName entries default) := by
    rw [unitName, defaultName]
    cases found : entries.get? "unit" with
    | some v => exact .inr (shape.unit v found)
    | none =>
      cases default with
      | none => exact .inl rfl
      | some s => exact .inr ⟨s, rfl⟩
  rcases plain with same | ⟨s, same⟩
  · rw [same]
    exact iff_of_false nofun (by simp)
  · rw [same]
    simp [Value.holds]

theorem readUnit_cases (shape : HasUnitShape entries) (default : Option String) :
    (∃ u, readUnit (.object entries) (defaultName default) = .ok u ∧ IsUnit entries default ∧
      UnitOf (unitName entries default) entries u) ∨
    ∃ fault, readUnit (.object entries) (defaultName default) = .error fault ∧
      (∃ message, fault.message? = some message) ∧ ¬ IsUnit entries default := by
  have named := holds_unitName shape default
  have reads := readRecords_reads (unitName entries default) shape
  rw [readUnit_object]
  -- A unit without a name is refused before its records are looked at.
  cases holds : (unitName entries default).holds with
  | false =>
    refine .inr ⟨_, rfl, ⟨_, rfl⟩, fun sound => ?_⟩
    rw [named.mpr sound.name] at holds
    cases holds
  | true =>
    rw [if_neg (by simp)]
    generalize readRecords (unitName entries default) entries = outcome at reads
    cases reads with
    | @ok u sound fit => exact .inl ⟨u, rfl, ⟨named.mp holds, sound.1, sound.2⟩, fit⟩
    | error told unsound =>
      exact .inr ⟨_, rfl, exists_message?_of_told told, fun sound =>
        unsound ⟨sound.declarations, sound.bodies⟩⟩

/-! ## Owners -/

theorem methodFault?_ne_strayField {β : Type} (d : Declaration String β) (m : Method String)
    (field owner : Value) : methodFault? d m ≠ some (.strayField field owner) := by
  unfold methodFault?
  split
  next => exact nofun
  next =>
    split
    next => exact nofun
    next =>
      split
      next => exact nofun
      next => split <;> exact nofun

theorem malformation?_ne_strayField {β : Type} {d : Declaration String β}
    (own : ∀ x ∈ d.fields, x.owner = .text d.name) (field owner : Value) :
    malformation? d ≠ some (.strayField field owner) := by
  have none : fieldFault? d = none := by
    simpa [fieldFault?] using own
  rw [malformation?, none, Option.none_or]
  intro stray
  rcases Option.or_eq_some_iff.mp stray with forward | ⟨_, method⟩
  · unfold forwardFault? at forward
    split at forward <;> cases forward
  · obtain ⟨m, _, found⟩ := List.exists_of_findSome?_eq_some method
    exact methodFault?_ne_strayField d m field owner found

theorem owner_of_fieldOf {owner : Value} {items : List Value} {members : List DataMember}
    (read : List.Forall₂ (fun v x => IsRecord (FieldOf owner · x) v) items members) :
    ∀ x ∈ members, x.owner = owner := by
  refine forall_mem_of_forall₂ (P := fun _ => True) read (fun v x made _ => ?_) fun _ _ => trivial
  cases v with
  | object entries => exact made.owner
  | _ => cases made

theorem exists_mapName?_of_declarationOf {unit : Value} {d : Declaration Value}
    (shape : HasDeclarationShape entries) (read : DeclarationOf unit entries d) :
    ∃ e, d.mapName? Value.text? = some e ∧
      ∀ field owner, malformation? e ≠ some (.strayField field owner) := by
  obtain ⟨s, named⟩ := shape.name _ read.name
  obtain ⟨methods, texts⟩ := exists_mapM_eq_some
    (f := fun m : Method Value => m.mapName? Value.text?) fun m member => by
      obtain ⟨s, same⟩ := exists_text? (isText_of_methodOf read.methods shape.eachMethod m member)
      exact ⟨_, by rw [Method.mapName?, same]; rfl⟩
  have owned := owner_of_fieldOf read.fields
  rw [named] at owned
  -- Fields are given the name of the declaration that they stand in, whatever it is.
  refine ⟨_, ?_, malformation?_ne_strayField (d := ⟨s, d.kind, d.bases, methods, d.fields, d.isFull,
    d.unit⟩) owned⟩
  rw [Declaration.mapName?, named, texts]
  rfl

/-- How the reading of a unit document is to end. -/
structure ReadsUnit (entries : Entries) (default : Option String) : Prop where
  /-- What goes wrong is told. -/
  tells : ∀ fault, readUnit (.object entries) (defaultName default) = .error fault →
    ∃ message, fault.message? = some message
  /-- It goes wrong unless the document is sound. -/
  reads : (∃ u, readUnit (.object entries) (defaultName default) = .ok u) ↔ IsUnit entries default
  /-- What is read corresponds to the document record by record. -/
  fits : ∀ u, readUnit (.object entries) (defaultName default) = .ok u →
    UnitOf (unitName entries default) entries u
  /-- No field that was read belongs to another declaration. -/
  owns : ∀ u, readUnit (.object entries) (defaultName default) = .ok u → ∀ d ∈ u.declarations,
    ∃ e, d.mapName? Value.text? = some e ∧
      ∀ field owner, malformation? e ≠ some (.strayField field owner)

/-- Reading ends so for every document that has the shape of a unit, whatever is missing in it. -/
theorem readsUnit_of_hasUnitShape (shape : HasUnitShape entries) (default : Option String) :
    ReadsUnit entries default := by
  rcases readUnit_cases shape default with ⟨u, read, sound, fit⟩ | ⟨fault, failed, told, unsound⟩
  · refine ⟨?_, iff_of_true ⟨u, read⟩ sound, ?_, ?_⟩
    · rw [read]
      exact nofun
    · rw [read]
      rintro _ ⟨⟩
      exact fit
    · rw [read]
      rintro _ ⟨⟩
      refine forall_mem_of_forall₂ fit.declarations (fun v d made shape => ?_) shape.eachDeclaration
      cases v with
      | object inner => exact exists_mapName?_of_declarationOf shape made
      | _ => cases made
  · refine ⟨?_, ?_, ?_, ?_⟩
    · rw [failed]
      rintro _ ⟨⟩
      exact told
    · rw [failed]
      exact iff_of_false nofun unsound
    · rw [failed]
      exact nofun
    · rw [failed]
      exact nofun

/-- A document whose calls have calls as arguments, and the same document where the innermost of
these has no callee. -/
theorem readsUnit_nestedCalls :
    let method : Entries :=
      [("name", .text "f"), ("visibility", .text "protected"), ("pure_virtual", .bool true),
        ("params", .list [.text "const int*", .object
          [("type", .object [("pointer", .object [("named", .text "K")])])]])]
    let declaration : Entries :=
      [("name", .text "a::I"), ("bases", .list [.text "B"]), ("methods", .list [.object method]),
        ("fields", .list [.object [("name", .text "x"), ("type", .text "K&")]])]
    let call (argument : Entries) : Entries :=
      [("callee", .text "f"), ("constructs", .list [.text "for", .text "try"]),
        ("arguments", .list [.object argument])]
    let body (argument : Entries) : Entries :=
      [("name", .text "a::run"), ("calls", .list [.text "g", .object (call argument)])]
    let unit (argument : Entries) : Entries :=
      [("declarations", .list [.object declaration]), ("bodies", .list [.object (body argument)])]
    let named := unit [("callee", .text "h"), ("arguments", .list [.text "i"])]
    let nameless := unit [("arguments", .list [.text "i"])]
    HasUnitShape named ∧ ReadsUnit named (some "u") ∧ IsUnit named (some "u") ∧
      HasUnitShape nameless ∧ ReadsUnit nameless (some "u") ∧ ¬ IsUnit nameless (some "u") := by
  intro method declaration call body unit named nameless
  have methodShape : HasMethodShape method := by
    constructor <;> simp [method, HoldsText, HoldsList, itemsUnder, Assoc.get?, IsText, IsRecord]
  have declarationShape : HasDeclarationShape declaration := by
    constructor <;>
      simp [declaration, HoldsText, HoldsList, itemsUnder, Assoc.get?, IsText, IsRecord,
        methodShape]
  have shape {argument : Entries} (inner : HasCallShape (.object argument)) :
      HasUnitShape (unit argument) := by
    have callShape : HasCallShape (.object (call argument)) := by
      constructor <;> simp [call, HoldsList, itemsUnder, Assoc.get?, inner]
    have bodyShape : HasBodyShape (body argument) := by
      constructor <;>
        simp [body, HoldsText, HoldsList, itemsUnder, Assoc.get?, IsText, callShape,
          HasCallShape.text]
    constructor <;>
      simp [unit, HoldsText, HoldsList, itemsUnder, Assoc.get?, IsRecord, declarationShape,
        bodyShape]
  have namedShape : HasUnitShape named := by
    refine shape ?_
    constructor <;> simp [HoldsList, itemsUnder, Assoc.get?, HasCallShape.text]
  have namelessShape : HasUnitShape nameless := by
    refine shape ?_
    constructor <;> simp [HoldsList, itemsUnder, Assoc.get?, HasCallShape.text]
  have namedReads := readsUnit_of_hasUnitShape namedShape (some "u")
  have namelessReads := readsUnit_of_hasUnitShape namelessShape (some "u")
  refine ⟨namedShape, namedReads, namedReads.reads.mp ?_, namelessShape, namelessReads,
    fun sound => ?_⟩
  · have read : (readUnit (.object named) (defaultName (some "u"))).isOk = true := by
      decide +kernel
    cases made : readUnit (.object named) (defaultName (some "u")) with
    | ok u => exact ⟨u, rfl⟩
    | error fault =>
      rw [made] at read
      cases read
  · obtain ⟨u, made⟩ := namelessReads.reads.mpr sound
    have read : (readUnit (.object nameless) (defaultName (some "u"))).isOk = false := by
      decide +kernel
    rw [made] at read
    cases read

end Understudy.Document
