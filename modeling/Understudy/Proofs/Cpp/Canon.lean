import Understudy.Cpp.Validity

/-! Records that say the same are read alike.

Every record has a canonical form, and what analyses read of a record they read of its canonical
form.
-/

set_option autoImplicit false

namespace Understudy

namespace Cpp

namespace SemanticType

@[simp] theorem isReference_canon (t : SemanticType) : t.canon.isReference = t.isReference := by
  cases t <;> rfl

@[simp] theorem target?_canon (t : SemanticType) : t.canon.target? = t.target? := by
  induction t with
  | pointer inner _ ih | reference inner _ ih => exact ih
  | _ => rfl

@[simp] theorem isSpelled_canon (t : SemanticType) : t.canon.isSpelled = t.isSpelled := by
  simp only [isSpelled]
  induction t with
  | pointer inner _ ih | reference inner _ ih => exact ih
  | _ => rfl

@[simp] theorem spelling_canon (t : SemanticType) : t.canon.spelling = t.spelling := by
  induction t with
  | pointer inner _ ih | reference inner _ ih => simp only [canon, spelling, ih]
  | _ => rfl

end SemanticType

namespace Method

variable (m : Method String)

@[simp] theorem spellings_canon : m.canon.spellings = m.spellings := by
  simp [spellings, canon, Parameter.canon, Function.comp_def]

@[simp] theorem isSpelled_canon : m.canon.isSpelled = m.isSpelled := by
  simp [isSpelled, canon, Parameter.canon, Function.comp_def]

@[simp] theorem signature_canon : m.canon.signature = m.signature := by
  rw [signature, spellings_canon]
  rfl

@[simp] theorem mangled_canon : m.canon.mangled = m.mangled := by
  rw [mangled, spellings_canon]
  rfl

theorem isCopyParameter_canon (owner : String) (parameters : List Parameter) :
    isCopyParameter owner (parameters.map Parameter.canon) = isCopyParameter owner parameters := by
  match parameters with
  | [] => rfl
  | [p] => simp [isCopyParameter, Parameter.canon]
  | _ :: _ :: _ => rfl

@[simp] theorem specialMember?_canon (owner : String) :
    specialMember? owner m.canon = specialMember? owner m := by
  simp [specialMember?, canon, isCopyParameter_canon]

@[simp] theorem isOrdinary_canon (owner : String) :
    isOrdinary owner m.canon = isOrdinary owner m := by
  simp [isOrdinary]

end Method

namespace Declaration

variable {d e : Declaration String}

/-- What a table tells of a declaration: all of a full definition, and of a forward declaration the
name alone. -/
def gist (d : Declaration String) : Declaration String :=
  if d.isFull then d.canon
  else { name := d.name, kind := .ordinary, bases := [], methods := [], fields := [],
         isFull := false, unit := .null }

theorem gist_name (d : Declaration String) : d.gist.name = d.name := by
  unfold gist
  split <;> rfl

theorem gist_isFull (d : Declaration String) : d.gist.isFull = d.isFull := by
  unfold gist
  split
  next full => exact full ▸ rfl
  next forward => simpa using forward

theorem name_of_gist (same : d.gist = e.gist) : d.name = e.name := by
  rw [← gist_name d, same, gist_name]

theorem isFull_of_gist (same : d.gist = e.gist) : d.isFull = e.isFull := by
  rw [← gist_isFull d, same, gist_isFull]

theorem canon_of_gist (same : d.gist = e.gist) (full : d.isFull = true) : d.canon = e.canon := by
  have full' : e.isFull = true := isFull_of_gist same ▸ full
  rwa [gist, if_pos full, gist, if_pos full'] at same

theorem isInterface_of_canon (same : d.canon = e.canon) : d.isInterface = e.isInterface := by
  change d.canon.isInterface = e.canon.isInterface
  rw [same]

theorem handed_of_gist (same : d.gist = e.gist) :
    (if d.isInterface && d.isFull then some d.name else none) =
      if e.isInterface && e.isFull then some e.name else none := by
  rw [name_of_gist same, ← isFull_of_gist same]
  cases full : d.isFull with
  | false => simp
  | true => rw [isInterface_of_canon (canon_of_gist same full)]

theorem gist_of_canon (same : d.canon = e.canon) (full : d.isFull = true) : d.gist = e.gist := by
  have both : d.canon.isFull = e.canon.isFull := congrArg (·.isFull) same
  have full' : e.isFull = true := both ▸ full
  rw [gist, if_pos full, gist, if_pos full', same]

end Declaration
end Cpp
end Understudy
