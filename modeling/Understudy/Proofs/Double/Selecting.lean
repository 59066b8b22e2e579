import Understudy.Proofs.Double.Quiet
import Understudy.Proofs.Double.Reach

/-! Calling the methods of a double by name.

A name and a number of arguments select a method if just one has both, and it is then looked up again
by its accessor. Main statement: such a call is an invocation of the method by its accessor, and all
calls and invocations that find no method, or one with another number of parameters, change nothing.
-/

set_option autoImplicit false

namespace Understudy

open Understudy.Cpp

/-! ## Names -/

theorem Member.common?_eq_none {name : String} (unhidden : name.startsWith "_" = false)
    (label : Nat → String) (d : Datum) : Member.common? label d name = none := by
  have comparison : Member.comparison? d name = none := by
    unfold Member.comparison?
    split <;> first | rfl | exact absurd unhidden (by decide +kernel)
  have textual : Member.textual? label d name = none := by
    unfold Member.textual?
    split <;> first | rfl | exact absurd unhidden (by decide +kernel)
  have idle : Member.idle? name = none := by
    unfold Member.idle?
    split <;> first | rfl | exact absurd unhidden (by decide +kernel)
  rw [Member.common?, comparison, textual, idle]
  rfl

/-- A name is none of a double's own: no member that every double has goes by it, and nothing that a
test has put on this one. -/
structure Double.LacksOwn (d : Double) (name : String) : Prop where
  unmarked : d.marks.get? name = none
  plain : OwnMember.ofName? name = none
  unhidden : name.startsWith "_" = false

/-- A method is the only one of a stub that has a name and takes a number of arguments. -/
def Stub.Selects (s : Stub) (name : String) (count : Nat) (m : InstrumentedMethod) : Prop :=
  ∀ n, n ∈ s.methods ∧ n.name = name ∧ n.arity = count ↔ n = m

namespace Stub

variable {s : Stub} {name : String} {count : Nat} {m : InstrumentedMethod}

theorem mem_candidates {n : InstrumentedMethod} :
    n ∈ (s.methodsNamed name).filter (·.arity == count) ↔
      n ∈ s.methods ∧ n.name = name ∧ n.arity = count := by
  simp [methodsNamed, and_comm]

theorem candidates_eq_singleton (distinct : s.methods.Nodup) :
    (s.methodsNamed name).filter (·.arity == count) = [m] ↔ s.Selects name count m := by
  have nodup : ((s.methodsNamed name).filter (·.arity == count)).Nodup :=
    (distinct.filter _).filter _
  rw [← List.perm_singleton, List.perm_ext_iff_of_nodup nodup (List.nodup_singleton m)]
  simp only [mem_candidates, List.mem_singleton, Selects]

end Stub

namespace Bench

variable {b : Bench} {number : Nat} {d : Double} {e : Datum} {name : String} {args : List Datum}
  {means : Means} {invoke : Invocation} {m : InstrumentedMethod}

/-! ## Calls by name -/

def Stands (number : Nat) (e : Datum) : Prop := e = .double number ∨ e = .twin number

theorem callNamed_of_stands (stands : Stands number e) :
    b.callNamed means e name args = b.callWith means e number name args := by
  rcases stands with rfl | rfl <;> rfl

theorem callWith_of_lacksOwn (known : b.double? number = some d) (lacks : d.LacksOwn name) :
    b.callWith means e number name args =
      match certainMethods d name with
      | .ok () => b.dispatch means.invoke number name args
      | .error fault => (b, .error fault) := by
  have beside : b.callDouble? means e number name args = none := by
    rw [callDouble?, lacks.plain]
    simp only [Member.common?_eq_none lacks.unhidden, Option.map_none]
  rw [callWith, known]
  dsimp only
  rewrite [lacks.unmarked, beside]
  rfl

theorem certainMethods_eq_ok (lacks : d.LacksOwn name) (listed : ∃ m ∈ d.stub.methods, m.name = name) :
    certainMethods d name = .ok () := by
  obtain ⟨m, member, named⟩ := listed
  have some_ : d.stub.methodsNamed name ≠ [] :=
    List.ne_nil_of_mem (List.mem_filter.mpr ⟨member, by simpa using named⟩)
  simp [certainMethods, lacks.unhidden, some_]

theorem certainMethods_eq_error (lacks : d.LacksOwn name)
    (unlisted : ∀ m ∈ d.stub.methods, m.name ≠ name) :
    certainMethods d name = .error (.noMethod d.stub.name name) := by
  have none_ : d.stub.methodsNamed name = [] :=
    List.filter_eq_nil_iff.mpr fun m member => by simpa using unlisted m member
  simp [certainMethods, lacks.unhidden, none_]

theorem dispatch_of_selects (known : b.double? number = some d) (distinct : d.stub.methods.Nodup)
    (selects : d.stub.Selects name args.length m) :
    b.dispatch invoke number name args = invoke b number m.accessor args := by
  unfold dispatch
  simp only [known, Option.map_some, Option.getD_some]
  rw [(Stub.candidates_eq_singleton distinct).mpr selects]

theorem dispatch_of_not_selects (known : b.double? number = some d) (distinct : d.stub.methods.Nodup)
    (undecided : ∀ m, ¬ d.stub.Selects name args.length m) :
    b.dispatch invoke number name args =
      (b, .error (.noOverload name args.length ((d.stub.methodsNamed name).map (·.accessor)))) := by
  unfold dispatch
  simp only [known, Option.map_some, Option.getD_some]
  split
  next m only => exact absurd ((Stub.candidates_eq_singleton distinct).mp only) (undecided m)
  next => rfl

/-! ## Main statement -/

structure Selecting (b : Bench) (number : Nat) (d : Double) : Prop where
  /-- A name and a number of arguments that just one method has stand for its accessor. -/
  selects : ∀ name, d.LacksOwn name → ∀ (args : List Datum) m,
    d.stub.Selects name args.length m → d.stub.method? m.accessor = some m ∧
      ∀ e, Stands number e →
        b.take (.call e (.text name) args) = b.take (.invoke number (.text m.accessor) args) ∧
          ∀ fuel, b.callNamed (.of (invokeWith fuel)) e name args =
            invokeWith fuel b number m.accessor args
  /-- Otherwise nothing is called and nothing changes. -/
  unnamed : ∀ name, d.LacksOwn name → (∀ m ∈ d.stub.methods, m.name ≠ name) →
    ∀ e args, Stands number e →
      b.take (.call e (.text name) args) = (b, .error (.noMethod d.stub.name name)) ∧
        ∀ means, b.callNamed means e name args = (b, .error (.noMethod d.stub.name name))
  undecided : ∀ name, d.LacksOwn name → (∃ m ∈ d.stub.methods, m.name = name) →
    ∀ e (args : List Datum), Stands number e → (∀ m, ¬ d.stub.Selects name args.length m) →
      let fault :=
        CallFault.noOverload name args.length ((d.stub.methodsNamed name).map (·.accessor))
      b.take (.call e (.text name) args) = (b, .error fault) ∧
        ∀ means, b.callNamed means e name args = (b, .error fault)
  unknown : ∀ (key : Value) args, (∀ text, key = .text text → d.stub.method? text = none) →
    b.take (.invoke number key args) = (b, .error (.unknownKey key.quoted))
  mismatched : ∀ key m (args : List Datum), d.stub.method? key = some m → args.length ≠ m.arity →
    b.take (.invoke number (.text key) args) =
        (b, .error (.wrongArity d.stub.interface m.name m.arity args.length)) ∧
      ∀ fuel, invokeWith (fuel + 1) b number key args =
        (b, .error (.wrongArity d.stub.interface m.name m.arity args.length))

theorem exists_depth_eq (b : Bench) (args : List Datum) : ∃ fuel, b.depth args = fuel + 1 :=
  Nat.exists_eq_add_one.mpr (Nat.mul_pos (Nat.succ_pos _) (Nat.succ_pos _))

theorem exists_invokeWith_eq (b : Bench) (number : Nat) (key : String) (args : List Datum) :
    ∃ fuel, b.take (.invoke number (.text key) args) = invokeWith (fuel + 1) b number key args := by
  obtain ⟨fuel, deep⟩ := b.exists_depth_eq args
  exact ⟨fuel, congrArg (invokeWith · b number key args) deep⟩

theorem invokeWith_of_unknown {key : String} (known : b.double? number = some d)
    (missing : d.stub.method? key = none) (fuel : Nat) :
    invokeWith (fuel + 1) b number key args = (b, .error (.unknownKey (Text.quoted key))) := by
  rw [invokeWith, known]
  dsimp only
  rw [missing]

theorem invokeWith_of_mismatch {key : String} (known : b.double? number = some d)
    (found : d.stub.method? key = some m) (mismatch : args.length ≠ m.arity) (fuel : Nat) :
    invokeWith (fuel + 1) b number key args =
      (b, .error (.wrongArity d.stub.interface m.name m.arity args.length)) := by
  rw [invokeWith, known]
  dsimp only
  rw [found]
  dsimp only
  rw [if_neg mismatch]

theorem IsSound.selecting {t : SymbolTable} {lead : Value} (sound : b.IsSound t lead)
    (known : b.double? number = some d) : b.Selecting number d where
  selects := by
    intro name lacks args m selects
    have distinct := (sound.nodup_accessors known).of_map
    obtain ⟨member, named, _⟩ := (selects m).mpr rfl
    -- However the call is made, to look the name up comes down to the method that is selected.
    have called (e : Datum) (stands : Stands number e) (means : Means) :
        b.callNamed means e name args = means.invoke b number m.accessor args := by
      rw [callNamed_of_stands stands, callWith_of_lacksOwn known lacks,
        certainMethods_eq_ok lacks ⟨m, member, named⟩]
      exact dispatch_of_selects known distinct selects
    exact ⟨sound.method?_accessor known member, fun e stands =>
      ⟨called e stands _, fun fuel => called e stands _⟩⟩
  unnamed := by
    intro name lacks unlisted e args stands
    have called (means : Means) :
        b.callNamed means e name args = (b, .error (.noMethod d.stub.name name)) := by
      rw [callNamed_of_stands stands, callWith_of_lacksOwn known lacks,
        certainMethods_eq_error lacks unlisted]
    exact ⟨called _, called⟩
  undecided := by
    intro name lacks listed e args stands undecided fault
    have distinct := (sound.nodup_accessors known).of_map
    have called (means : Means) : b.callNamed means e name args = (b, .error fault) := by
      rw [callNamed_of_stands stands, callWith_of_lacksOwn known lacks,
        certainMethods_eq_ok lacks listed]
      exact dispatch_of_not_selects known distinct undecided
    exact ⟨called _, called⟩
  unknown := by
    intro key args missing
    cases key with
    | text key =>
      obtain ⟨fuel, deep⟩ := b.exists_invokeWith_eq number key args
      rw [deep]
      exact invokeWith_of_unknown known (missing key rfl) fuel
    | _ => rfl
  mismatched := by
    intro key m args found mismatch
    have refused := invokeWith_of_mismatch known found mismatch
    obtain ⟨fuel, deep⟩ := b.exists_invokeWith_eq number key args
    exact ⟨deep.trans (refused fuel), refused⟩

/-- Whatever has been done on a bench, each of its doubles is called by name just as it is invoked by
the accessor of the method that name and number of arguments select, and a call or an invocation that
finds no such method leaves the bench as it was. -/
theorem selecting_of_shifts (t : SymbolTable) (classification : Option Classification)
    (lead : Value) :
    let start := empty ⟨t, classification, lead, []⟩
    (∀ demands, Shifts start (start.meetAll demands)) ∧
      ∀ b, Shifts start b → ∀ number d, b.double? number = some d → b.Selecting number d := by
  intro start
  have sound : start.IsSound t lead := isSound_empty (Generator.isOf_fresh t classification lead)
  exact ⟨shifts_meetAll start, fun b shifts number d known => (shifts.isSound sound).selecting known⟩

def overloaded : Bench :=
  let method (parameters : List String) : Method String :=
    { name := "f", parameters := parameters.map fun type => ⟨.primitive type false, .null⟩
      returnType := some (.primitive "int" false), isPure := true, isConst := false
      visibility := .public }
  let declaration : Declaration String :=
    { name := "O", kind := .interface, bases := []
      methods := [method ["int"], method ["char"], method ["int", "int"]], fields := []
      isFull := true, unit := .null }
  let table :=
    (SymbolTable.merge [⟨.null, [declaration], [], .null⟩]).1
  (empty ⟨table, none, .text "Stub", []⟩).meetAll [.test (.create (.text "O"))]

/-- By its number of arguments the last method is called, and the first two cannot be told apart. -/
theorem selecting_of_shifts_overloaded :
    ∃ d, overloaded.double? 0 = some d ∧ overloaded.Selecting 0 d ∧ d.LacksOwn "f" ∧
      overloaded.take (.call (.double 0) (.text "f") [.int 1, .int 2]) =
          overloaded.take (.invoke 0 (.text "f_int_int") [.int 1, .int 2]) ∧
        (overloaded.take (.call (.double 0) (.text "f") [.int 1, .int 2])).2 = .ok (.int 0) ∧
          overloaded.take (.call (.double 0) (.text "f") [.int 1]) =
            (overloaded, .error (.noOverload "f" 1 ["f_int", "f_char", "f_int_int"])) := by
  have facts : ∃ d ∈ overloaded.doubles, overloaded.double? 0 = some d ∧ d.marks.get? "f" = none ∧
      (d.stub.methodsNamed "f").map (·.accessor) = ["f_int", "f_char", "f_int_int"] ∧
        ((d.stub.methodsNamed "f").filter (·.arity == 1)).map (·.accessor) = ["f_int", "f_char"] ∧
          ((d.stub.methodsNamed "f").filter (·.arity == 2)).map (·.accessor) = ["f_int_int"] := by
    decide +kernel
  obtain ⟨d, _, known, unmarked, accessors, two, one⟩ := facts
  have lacks : d.LacksOwn "f" := ⟨unmarked, rfl, by decide +kernel⟩
  have selecting : overloaded.Selecting 0 d :=
    (selecting_of_shifts _ none (.text "Stub")).2 overloaded
      ((selecting_of_shifts _ none (.text "Stub")).1 _) 0 d known
  have selects {count : Nat} {n : InstrumentedMethod} {accessors : List String}
      (only : ((d.stub.methodsNamed "f").filter (·.arity == count)).map (·.accessor) = accessors)
      (selected : d.stub.Selects "f" count n) : ∀ accessor ∈ accessors, accessor = n.accessor := by
    intro accessor listed
    obtain ⟨m, candidate, rfl⟩ := List.mem_map.mp (only ▸ listed)
    rw [(selected m).mp (Stub.mem_candidates.mp candidate)]
  obtain ⟨m, last, named⟩ := List.map_eq_singleton_iff.mp one
  have selected : d.stub.Selects "f" 2 m := by
    intro n
    rw [← Stub.mem_candidates, last, List.mem_singleton]
  have undecided (n : InstrumentedMethod) : ¬ d.stub.Selects "f" 1 n := by
    intro both
    have first := selects two both "f_int" (by simp)
    have second := selects two both "f_char" (by simp)
    exact absurd (first.trans second.symm) (by decide)
  have listed : ∃ m ∈ d.stub.methods, m.name = "f" :=
    ⟨m, ((selected m).mpr rfl).1, ((selected m).mpr rfl).2.1⟩
  obtain ⟨_, called⟩ := selecting.selects "f" lacks [.int 1, .int 2] m selected
  have refused := (selecting.undecided "f" lacks listed (.double 0) [.int 1] (.inl rfl) undecided).1
  rw [accessors] at refused
  exact ⟨d, known, selecting, lacks, named ▸ (called _ (.inl rfl)).1, by decide +kernel, refused⟩

end Bench
end Understudy
