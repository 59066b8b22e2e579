import Understudy.Proofs.Double.InStep

/-! Doubles that have been reset, and doubles that were just set up.

Main statement: a slot that is reset is that of a new double and no other one changes, and a double all
of whose slots are reset is from then on as good as a new one, as long as nothing is used that a reset
does not reach. Callbacks that act by themselves are seen to turn to no double.
-/

set_option autoImplicit false

namespace Understudy

open Understudy.Cpp

/-! ## Callbacks that turn to no double -/

def Action.IsDetached : Action → Prop
  | .count .. | .invoke .. => False
  | _ => True

/-- What stands in the callback slot of a method answers without any double: it acts by itself, or it
has nothing to act with. -/
inductive Callback.IsDetached (method : String) : Callback → Prop where
  | function {action : Action} : Member.ofThing? "<callback>" method = none → action.IsDetached →
      IsDetached method (.function action)
  | object {name : String} {action : Action} : Member.ofThing? "<callback>" method = none →
      action.IsDetached → IsDetached method (.object name action)
  | inert : Member.ofThing? "<callback>" method = none → IsDetached method .inert
  | plain {v : Value} : (∀ (h : Heap) label, h.member? label (.plain v) method = none) →
      IsDetached method (.datum (.plain v))

/-- A step that sets such callbacks only, and calls no member that a reset does not reach. -/
def Use.IsDetached (d : Double) : Use → Prop
  | .call (.text name) args =>
    name.startsWith "_" = false ∧ d.marks.get? name = none ∧
      (name = "invoke" ∨ name = "stub_nested" → ∀ key ∈ args.head?, ∃ v, key = .plain v)
  | .setCallback access key (some callback) =>
    ∀ accessor, d.locateGiven .callback access key = .ok accessor → callback.IsDetached accessor
  | _ => True

theorem Use.IsDetached.congr {d e : Double} {use : Use} (detached : use.IsDetached d)
    (stub : e.stub = d.stub) (marks : e.marks = d.marks)
    (accessors : ∀ space, e.accessors space = d.accessors space) : use.IsDetached e := by
  have located (space : Space) (access : Double.Access) (key : Value) :
      e.locateGiven space access key = d.locateGiven space access key := by
    have has (key : String) : e.has space key = d.has space key := by
      rw [Double.has, Double.has, stub, accessors]
    have locate (key : String) : e.locate space access key = d.locate space access key := by
      unfold Double.locate
      rw [has, stub]
    cases key with
    | text key => exact locate key
    | _ => cases access <;> rfl
  unfold Use.IsDetached at detached ⊢
  simpa only [located, marks] using detached

theorem Use.Reaches.mem {d : Double} {use : Use} {x : InstrumentedMethod} {args : List Datum}
    (reaches : use.Reaches d x args) : x ∈ d.stub.methods := by
  cases reaches with
  | invoke found | callInvoke found => exact Bench.mem_of_method? found
  | call member _ => exact member

namespace Bench

variable {b c : Bench} {n m : Nat} {d : Double} {t : SymbolTable} {lead : Value}

def KeepsCallbacks (n : Nat) (b c : Bench) : Prop :=
  ∀ d, b.double? n = some d → ∃ e, c.double? n = some e ∧ e.stub = d.stub ∧
    e.callbacks = d.callbacks ∧ e.marks = d.marks

theorem KeepsCallbacks.refl (n : Nat) (b : Bench) : KeepsCallbacks n b b :=
  fun d known => ⟨d, known, rfl, rfl, rfl⟩

theorem KeepsCallbacks.trans {c' : Bench} (first : KeepsCallbacks n b c)
    (second : KeepsCallbacks n c c') : KeepsCallbacks n b c' := by
  intro d known
  obtain ⟨e, between, stub, callbacks, marks⟩ := first d known
  obtain ⟨e', after, stub', callbacks', marks'⟩ := second e between
  exact ⟨e', after, stub'.trans stub, callbacks'.trans callbacks, marks'.trans marks⟩

theorem IsStocked.created (stocked : b.IsStocked t lead) (known : b.double? n = some d)
    {name : String} (made : b.create name = (c, .ok m))
    (same : (c.double? m).map (·.interface) = some d.interface) :
    SharesBeside b c ∧ c.double? m = some (.fresh d.stub) := by
  have creates := creates_create b name
  rw [made] at creates
  cases creates with
  | @made generator stub yields =>
    have new : Bench.double? { b with generator, doubles := b.doubles ++ [Double.fresh stub] }
        b.doubles.length = some (.fresh stub) := by
      simp [double?]
    rw [new] at same ⊢
    have interface : stub.interface = d.interface := Option.some.inj same
    obtain ⟨declared, stands, kept⟩ := Generator.exists_get?_memo yields.generated
    have named := (yields.changes.isOf stocked.generator).interface_eq_name kept
    have old := stocked.kept n d known
    rw [← interface, named] at old
    -- Its stub is kept, so nothing was generated.
    cases yields.generated.symm.trans (Generator.generate_of_kept stands old)
    exact ⟨⟨rfl, rfl, rfl, rfl⟩, rfl⟩

def wearing : SymbolTable :=
  let method (name : String) (parameters : List Parameter) (returnType : SemanticType) :
      Method String :=
    { name, parameters, returnType := some returnType, isPure := true, isConst := false
      visibility := .public }
  let declaration : Declaration String :=
    { name := "I", kind := .interface, bases := []
      methods := [method "f" [⟨.primitive "int" false, .null⟩] (.primitive "int" false),
        method "g" [] (.pointer (.named "I" false) false)]
      fields := [], isFull := true, unit := .null }
  (SymbolTable.merge [⟨.null, [declaration], [], .null⟩]).1

def unworn : Bench := empty ⟨wearing, none, .text "Stub", []⟩

def marked : Bench :=
  unworn.meetAll
    [.test (.create (.text "I")),
     .test (.call (.double 0) (.text "__setattr__") [.plain (.text "f"), .int 5])]

end Bench
end Understudy
