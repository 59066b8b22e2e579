import Understudy.Proofs.Double.Counting
import Understudy.Proofs.Stub.Accessors

/-! Methods and slots under one key.

A key is an accessor, or else a mangled name. Of several methods with one mangled name the first is
called, and the slots of the last are read. Main statement: calls and slots agree exactly under the
keys that stand for one method at most.
-/

set_option autoImplicit false

open Relation (ReflTransGen)

namespace Understudy

open Understudy.Cpp

namespace Stub

variable {s : Stub} {key : String} {m : InstrumentedMethod}

/-- The methods that a key stands for: those with this accessor, else those with this mangled
name. -/
def meant (s : Stub) (key : String) : List InstrumentedMethod :=
  if s.methods.any (·.accessor == key) then s.methods.filter (·.accessor == key)
  else s.methods.filter (·.mangled == key)

theorem meant_sublist (s : Stub) (key : String) : (s.meant key).Sublist s.methods := by
  unfold meant
  split <;> exact List.filter_sublist

theorem method?_eq_head? (s : Stub) (key : String) : s.method? key = (s.meant key).head? := by
  unfold method? meant
  split
  next known =>
    obtain ⟨m, member, named⟩ := List.any_eq_true.mp known
    have some : (s.methods.find? (·.accessor == key)).isSome :=
      List.find?_isSome.mpr ⟨m, member, named⟩
    obtain ⟨first, found⟩ := Option.isSome_iff_exists.mp some
    rw [List.head?_filter, found, Option.some_or]
  next unknown =>
    have none : s.methods.find? (·.accessor == key) = none := by simpa using unknown
    rw [List.head?_filter, none, Option.none_or]

theorem slotKey_eq_getLast? (s : Stub) (key : String) :
    s.slotKey key = ((s.meant key).getLast?.map (·.accessor)).getD key := by
  unfold slotKey meant
  split
  next known =>
    cases last : (s.methods.filter (·.accessor == key)).getLast? with
    | none => rfl
    | some n =>
      have listed := List.mem_of_getLast? last
      have same : n.accessor = key := by simpa using (List.mem_filter.mp listed).2
      exact same.symm
  next => rw [← List.head?_reverse, ← List.filter_reverse, List.head?_filter]

theorem accessor_of_mem_meant (known : ∃ m ∈ s.methods, m.accessor = key) (member : m ∈ s.meant key) :
    m.accessor = key := by
  obtain ⟨n, listed, named⟩ := known
  have some : s.methods.any (·.accessor == key) = true :=
    List.any_eq_true.mpr ⟨n, listed, by simpa using named⟩
  rw [meant, if_pos some] at member
  simpa using (List.mem_filter.mp member).2

theorem meant_eq_nil : s.meant key = [] ↔
    ∀ m ∈ s.methods, m.accessor ≠ key ∧ m.mangled ≠ key := by
  unfold meant
  constructor
  · intro nothing m member
    split at nothing
    next known =>
      obtain ⟨n, listed, named⟩ := List.any_eq_true.mp known
      exact absurd named (List.filter_eq_nil_iff.mp nothing n listed)
    next unknown =>
      have unnamed := List.filter_eq_nil_iff.mp nothing m member
      refine ⟨fun named => unknown (List.any_eq_true.mpr ⟨m, member, by simpa using named⟩), ?_⟩
      simpa using unnamed
  · intro strange
    split
    · exact List.filter_eq_nil_iff.mpr fun m member => by simpa using (strange m member).1
    · exact List.filter_eq_nil_iff.mpr fun m member => by simpa using (strange m member).2

def slotted (s : Stub) : Space → List String
  | .counter | .callback => s.methods.map (·.accessor)
  | .static => s.returning.map (·.accessor)

end Stub

namespace Double

variable {d after : Double} {stub : Stub} {key : String} {space : Space} {m : InstrumentedMethod}

/-! ## The slots stay -/

/-- What befalls a double: slots that it has are set, and things beside the slots change. -/
inductive Change (d : Double) : Double → Prop where
  | counter {key : String} (c : Counter) : d.has .counter key = true → Change d (d.setCounter key c)
  | callback {key : String} (c : Option Callback) :
      d.has .callback key = true → Change d (d.setCallback key c)
  | static (key : String) (answer : Datum) : Change d (d.setStatic key answer)
  | reset {space : Space} {key : String} : d.has space key = true → Change d (d.reset space key)
  | resetSpace (space : Space) : Change d (d.resetSpace space)
  | beside (nested : Assoc Nat) (marks : Assoc Datum) : Change d { d with nested, marks }

structure IsSlotted (stub : Stub) (d : Double) : Prop where
  ofStub : d.stub = stub
  accessors : ∀ space, d.accessors space = stub.slotted space

theorem isSlotted_fresh (stub : Stub) : IsSlotted stub (fresh stub) where
  ofStub := rfl
  accessors space := by
    cases space <;> simp [accessors, fresh, Assoc.keys, Stub.slotted, Function.comp_def]

theorem keys_set_of_contains {α : Type} {entries : Assoc α} {value : α}
    (known : entries.keys.contains key = true) : (entries.set key value).keys = entries.keys := by
  rw [Assoc.keys_set, if_pos (Assoc.mem_keys.mp (List.contains_iff_mem.mp known))]

theorem keys_map_entry {α : Type} (entries : Assoc α) (value : String × α → α) :
    Assoc.keys (entries.map fun e => (e.1, value e)) = entries.keys := by
  simp [Assoc.keys, Function.comp_def]

theorem IsSlotted.setCounter (slotted : IsSlotted stub d) (c : Counter)
    (known : d.has .counter key = true) : IsSlotted stub (d.setCounter key c) where
  ofStub := slotted.ofStub
  accessors
    | .counter => (keys_set_of_contains known).trans (slotted.accessors .counter)
    | .callback => slotted.accessors .callback
    | .static => slotted.accessors .static

theorem IsSlotted.setCallback (slotted : IsSlotted stub d) (c : Option Callback)
    (known : d.has .callback key = true) : IsSlotted stub (d.setCallback key c) where
  ofStub := slotted.ofStub
  accessors
    | .counter => slotted.accessors .counter
    | .callback => (keys_set_of_contains known).trans (slotted.accessors .callback)
    | .static => slotted.accessors .static

theorem IsSlotted.setStatic (slotted : IsSlotted stub d) (key : String) (answer : Datum) :
    IsSlotted stub (d.setStatic key answer) := by
  unfold Double.setStatic
  split
  next slot found =>
    have known : d.statics.has (d.stub.slotKey key) = true := by
      rw [Assoc.has, ← static?, found]
      rfl
    have same : (d.statics.set (d.stub.slotKey key) { slot with current := answer }).keys =
        d.statics.keys := by
      rw [Assoc.keys_set, if_pos known]
    refine ⟨slotted.ofStub, fun space => ?_⟩
    cases space with
    | counter => exact slotted.accessors .counter
    | callback => exact slotted.accessors .callback
    | static => exact same.trans (slotted.accessors .static)
  next => exact slotted

theorem IsSlotted.reset (slotted : IsSlotted stub d) (known : d.has space key = true) :
    IsSlotted stub (d.reset space key) := by
  cases space with
  | counter => exact slotted.setCounter .fresh known
  | callback => exact slotted.setCallback none known
  | static =>
    unfold Double.reset
    dsimp only
    split
    next => exact slotted.setStatic key _
    next => exact slotted

theorem IsSlotted.resetSpace (slotted : IsSlotted stub d) (space : Space) :
    IsSlotted stub (d.resetSpace space) := by
  refine ⟨?_, fun asked => ?_⟩
  · cases space <;> exact slotted.ofStub
  · rw [← slotted.accessors asked]
    cases space <;> cases asked <;> first | rfl | exact keys_map_entry _ _

theorem Change.isSlotted (change : d.Change after) (slotted : IsSlotted stub d) :
    IsSlotted stub after := by
  cases change with
  | counter c known => exact slotted.setCounter c known
  | callback c known => exact slotted.setCallback c known
  | static key answer => exact slotted.setStatic key answer
  | reset known => exact slotted.reset known
  | resetSpace space => exact slotted.resetSpace space
  | beside nested marks => exact ⟨slotted.ofStub, slotted.accessors⟩

theorem isSlotted_of_changes (changes : ReflTransGen Change (fresh stub) d) : IsSlotted stub d := by
  induction changes with
  | refl => exact isSlotted_fresh stub
  | tail _ change ih => exact change.isSlotted ih

/-! ## What a key finds -/

theorem IsSlotted.has_eq (slotted : IsSlotted stub d)
    (distinct : (stub.methods.map (·.accessor)).Nodup) (space : Space) (key : String) :
    d.has space key = (stub.meant key).getLast?.any fun m => !(space == .static && m.isVoid) := by
  rw [has, slotted.ofStub, slotted.accessors, Stub.slotKey_eq_getLast?]
  cases last : (stub.meant key).getLast? with
  | none =>
    have strange := Stub.meant_eq_nil.mp (List.getLast?_eq_none_iff.mp last)
    rw [Option.any_none, Bool.eq_false_iff, ne_eq, List.contains_iff_mem]
    intro known
    obtain ⟨m, member, named⟩ : ∃ m ∈ stub.methods, m.accessor = key := by
      cases space with
      | counter | callback => exact List.mem_map.mp known
      | static =>
        obtain ⟨m, returning, named⟩ := List.mem_map.mp known
        exact ⟨m, (List.mem_filter.mp returning).1, named⟩
    exact (strange m member).1 named
  | some n =>
    have member : n ∈ stub.methods :=
      (stub.meant_sublist key).subset (List.mem_of_getLast? last)
    rw [Option.any_some, Option.map_some, Option.getD_some, Bool.eq_iff_iff, List.contains_iff_mem]
    cases space with
    | counter | callback => simpa [Stub.slotted] using ⟨n, member, rfl⟩
    | static =>
      rw [Stub.slotted, List.mem_map]
      -- A method that answers under this accessor is the one found, since accessors are distinct.
      constructor
      · rintro ⟨m, returning, named⟩
        obtain ⟨listed, answers⟩ := List.mem_filter.mp returning
        cases List.inj_on_of_nodup_map distinct listed member named
        simpa using answers
      · intro answers
        exact ⟨n, List.mem_filter.mpr ⟨member, by simpa using answers⟩, rfl⟩

end Double

/-- The slot of a method in a space. What returns nothing has no static one. -/
def InstrumentedMethod.slotIn (m : InstrumentedMethod) (space : Space) : Except CallFault String :=
  if space == .static && m.isVoid then .error (.slip .noKey) else .ok m.accessor

namespace Double

variable {d : Double} {stub : Stub} {key : String} {space : Space} {m : InstrumentedMethod}

theorem IsSlotted.locate_eq (slotted : IsSlotted stub d)
    (distinct : (stub.methods.map (·.accessor)).Nodup) (space : Space) (key : String) :
    d.locate space .item key =
      ((stub.meant key).getLast?.map (·.slotIn space)).getD (.error (.slip .noKey)) := by
  rw [locate, slotted.has_eq distinct, slotted.ofStub, Stub.slotKey_eq_getLast?]
  cases (stub.meant key).getLast? with
  | none => rfl
  | some n =>
    simp only [Option.any_some, Option.map_some, Option.getD_some, InstrumentedMethod.slotIn]
    cases space == .static && n.isVoid <;> rfl

/-- What is called under a key has its slots there. -/
structure Agrees (d : Double) (key : String) : Prop where
  found : ∀ m, d.stub.method? key = some m → ∀ space, d.locate space .item key = m.slotIn space
  missing : d.stub.method? key = none →
    ∀ space, d.locate space .item key = .error (.slip .noKey)

theorem length_le_one_iff_of_ends {α : Type} {xs : List α} {x y : α} (distinct : xs.Nodup)
    (first : xs.head? = some x) (last : xs.getLast? = some y) : xs.length ≤ 1 ↔ x = y := by
  match xs, distinct, first, last with
  | [_], _, rfl, rfl => simp
  | x :: z :: rest, distinct, rfl, last =>
    have later : y ∈ z :: rest := by
      rw [List.getLast?_cons_cons] at last
      exact List.mem_of_getLast? last
    have apart : x ≠ y := by
      rintro rfl
      exact (List.nodup_cons.mp distinct).1 later
    simp [apart]

theorem ends_of_meant (distinct : (stub.methods.map (·.accessor)).Nodup)
    (first : (stub.meant key).head? = some m) :
    ∃ n, (stub.meant key).getLast? = some n ∧
      ((stub.meant key).length ≤ 1 ↔ m.accessor = n.accessor) ∧
        (m.accessor = n.accessor → m = n) := by
  have part := stub.meant_sublist key
  have some_ : stub.meant key ≠ [] := List.ne_nil_of_mem (List.mem_of_head? first)
  have last := List.getLast?_eq_getLast_of_ne_nil some_
  have apart := List.inj_on_of_nodup_map distinct (part.subset (List.mem_of_head? first))
    (part.subset (List.mem_of_getLast? last))
  refine ⟨_, last, ?_, apart⟩
  rw [length_le_one_iff_of_ends (part.nodup distinct.of_map) first last]
  exact ⟨congrArg _, apart⟩

theorem IsSlotted.agrees_iff (slotted : IsSlotted stub d)
    (distinct : (stub.methods.map (·.accessor)).Nodup) (key : String) :
    d.Agrees key ↔ (stub.meant key).length ≤ 1 := by
  have called : d.stub.method? key = (stub.meant key).head? := by
    rw [slotted.ofStub, Stub.method?_eq_head?]
  have read := fun space => slotted.locate_eq distinct space key
  cases first : (stub.meant key).head? with
  | none =>
    have nothing : stub.meant key = [] := List.head?_eq_none_iff.mp first
    rw [first] at called
    simp only [nothing, List.getLast?_nil, Option.map_none, Option.getD_none] at read
    refine ⟨fun _ => by simp [nothing], fun _ => ⟨fun m found => ?_, fun _ => read⟩⟩
    rw [called] at found
    cases found
  | some m =>
    rw [first] at called
    obtain ⟨n, last, once, apart⟩ := ends_of_meant distinct first
    simp only [last, Option.map_some, Option.getD_some] at read
    rw [once]
    constructor
    · intro agrees
      have here : n.slotIn .counter = m.slotIn .counter :=
        (read .counter).symm.trans (agrees.found m called .counter)
      exact (Except.ok.inj here).symm
    · intro same
      cases apart same
      refine ⟨fun other found space => ?_, fun missing => ?_⟩
      · rw [called] at found
        cases found
        exact read space
      · rw [called] at missing
        cases missing

theorem IsSlotted.agrees_accessor (slotted : IsSlotted stub d)
    (distinct : (stub.methods.map (·.accessor)).Nodup) (member : m ∈ stub.methods) :
    d.Agrees m.accessor := by
  rw [slotted.agrees_iff distinct]
  have named (n : InstrumentedMethod) (listed : n ∈ stub.meant m.accessor) :
      n.accessor = m.accessor := Stub.accessor_of_mem_meant ⟨m, member, rfl⟩ listed
  cases first : (stub.meant m.accessor).head? with
  | none => simp [List.head?_eq_none_iff.mp first]
  | some x =>
    obtain ⟨n, last, once, _⟩ := ends_of_meant distinct first
    rw [once, named x (List.mem_of_head? first), named n (List.mem_of_getLast? last)]

theorem IsSlotted.counts_iff (slotted : IsSlotted stub d)
    (distinct : (stub.methods.map (·.accessor)).Nodup) {b : Bench} {number : Nat}
    (known : b.double? number = some d) (found : stub.method? key = some m) {c : Counter}
    (shown : d.counter? key = some c) :
    ((b.count number m).double? number).bind (·.counter? key) =
        some { c with calls := c.calls + 1 } ↔ (stub.meant key).length ≤ 1 := by
  have member := Bench.mem_of_method? found
  rw [Stub.method?_eq_head?] at found
  obtain ⟨n, last, once, _⟩ := ends_of_meant distinct found
  have slot : d.stub.slotKey key = n.accessor := by
    rw [slotted.ofStub, Stub.slotKey_eq_getLast?, last]
    rfl
  have own : d.stub.slotKey m.accessor = m.accessor :=
    Stub.slotKey_accessor (slotted.ofStub.symm ▸ member)
  have counted : ((b.count number m).double? number).bind (·.counter? key) =
      (Bench.counting m d).counters.get? n.accessor := by
    rw [Bench.count, Bench.double?_update_self, known]
    exact congrArg (Assoc.get? _) slot
  rw [counter?, slot] at shown
  -- The call sets the counter of the first method, and the key goes on to show that of the last.
  rw [once, counted, Bench.counting, Double.setCounter, own]
  dsimp only
  constructor
  · intro here
    by_contra apart
    rw [Assoc.get?_set_ne _ _ (Ne.symm apart), shown] at here
    simpa using congrArg Counter.calls (Option.some.inj here)
  · intro same
    rw [same, Assoc.get?_set_self, ← same, counter?, own, same, shown, Option.getD_some]

end Double

structure Double.LooksUp (d : Double) : Prop where
  /-- The first method that a key stands for is called. -/
  called : ∀ key, d.stub.method? key = (d.stub.meant key).head?
  /-- The slots of the last one are read. -/
  read : ∀ key space, d.locate space .item key =
    ((d.stub.meant key).getLast?.map (·.slotIn space)).getD (.error (.slip .noKey))
  agrees : ∀ key, d.Agrees key ↔ (d.stub.meant key).length ≤ 1
  accessors : ∀ m ∈ d.stub.methods, d.Agrees m.accessor
  /-- Under all other keys a call is not counted where the key reads. -/
  counts : ∀ (b : Bench) (number : Nat), b.double? number = some d → ∀ key m (c : Counter),
    d.stub.method? key = some m → d.counter? key = some c →
      (((b.count number m).double? number).bind (·.counter? key) =
        some { c with calls := c.calls + 1 } ↔ (d.stub.meant key).length ≤ 1)

namespace SymbolTable

/-- Whatever befalls the double of a stub, calls and slots agree under a key exactly if it stands for
one method at most. -/
theorem looksUp_of_buildStub {t : SymbolTable} {lead : Value} {declaration : Declaration String}
    {stub : Stub} (made : t.buildStub lead declaration = .ok stub) {d : Double}
    (changes : ReflTransGen Double.Change (.fresh stub) d) : d.stub = stub ∧ d.LooksUp := by
  have slotted := Double.isSlotted_of_changes changes
  have distinct := nodup_accessors made
  cases slotted.ofStub
  refine ⟨rfl, d.stub.method?_eq_head?, ?_, slotted.agrees_iff distinct, ?_, ?_⟩
  · exact fun key space => slotted.locate_eq distinct space key
  · exact fun m member => slotted.agrees_accessor distinct member
  · exact fun b number known key m c found shown => slotted.counts_iff distinct known found shown

/-- An interface with two methods, named so that `f_int_char` is the mangled name of both. -/
def overlapping : Declaration String :=
  let method (name : String) (result : String) (parameters : List String) : Method String :=
    { name, parameters := parameters.map fun type => ⟨.primitive type false, .null⟩
      returnType := some (.primitive result false), isPure := true, isConst := false
      visibility := .public }
  { name := "I", kind := .interface, bases := []
    methods := [method "f" "int" ["int", "char"], method "f_int" "void" ["char"]]
    fields := [], isFull := true, unit := .null }

def overlappingTable : SymbolTable :=
  (merge [{ name := .null, declarations := [overlapping], bodies := [], header := .null }]).1

def overlapped : Bench :=
  (Bench.empty ⟨overlappingTable, none, .text "Stub", []⟩).run
    [.create (.text "I"), .invoke 0 (.text "f_int_char") [.int 1, .int 2]]

/-- The first method is called and counted, and the key goes on showing the counter of the second,
which is never called. -/
theorem not_agrees_overlapping :
    ∃ d, overlappingTable.buildStub (.text "Stub") overlapping = .ok d.stub ∧
      overlapped.double? 0 = some d ∧ ¬ d.Agrees "f_int_char" ∧
        ¬ (Double.fresh d.stub).Agrees "f_int_char" ∧
          d.counter? "f" = some ⟨1, [.int 1, .int 2]⟩ ∧
            d.counter? "f_int_char" = some ⟨0, []⟩ := by
  have facts : ∃ d ∈ overlapped.doubles,
      overlappingTable.buildStub (.text "Stub") overlapping = .ok d.stub ∧
        overlapped.double? 0 = some d ∧
          (d.stub.method? "f_int_char").map (·.accessor) = some "f" ∧
            d.locate .counter .item "f_int_char" = .ok "f_int" ∧
              (Double.fresh d.stub).locate .counter .item "f_int_char" = .ok "f_int" ∧
                d.counter? "f" = some ⟨1, [.int 1, .int 2]⟩ ∧
                  d.counter? "f_int_char" = some ⟨0, []⟩ := by
    decide +kernel
  obtain ⟨d, _, made, known, called, read, readFresh, counted, shown⟩ := facts
  obtain ⟨m, found, named⟩ := Option.map_eq_some_iff.mp called
  -- Where both agree the slot would be that of the first method.
  have apart {d : Double} (found : d.stub.method? "f_int_char" = some m)
      (read : d.locate .counter .item "f_int_char" = .ok "f_int") : ¬ d.Agrees "f_int_char" := by
    intro agrees
    have here : Except.ok "f_int" = m.slotIn .counter :=
      read.symm.trans (agrees.found m found .counter)
    have same : "f_int" = m.accessor := Except.ok.inj here
    rw [named] at same
    exact absurd same (by decide)
  exact ⟨d, made, known, apart found read, apart found readFresh, counted, shown⟩

/-- Under its accessor each of the two is called and read, and nothing is under a strange key. -/
theorem looksUp_overlapping :
    ∃ stub d, overlappingTable.buildStub (.text "Stub") overlapping = .ok stub ∧
      d = (Double.fresh stub).setCounter "f" ⟨3, []⟩ ∧ d.stub = stub ∧ d.LooksUp ∧
        d.Agrees "f" ∧ d.Agrees "f_int" ∧ d.Agrees "g" ∧ ¬ d.Agrees "f_int_char" := by
  have facts : (overlappingTable.buildStub (.text "Stub") overlapping).toOption.map (fun stub =>
      ((Double.fresh stub).has .counter "f",
        ["f", "f_int", "g", "f_int_char"].map fun key => (stub.meant key).length)) =
      some (true, [1, 1, 0, 2]) := by
    decide +kernel
  obtain ⟨stub, built, facts⟩ := Option.map_eq_some_iff.mp facts
  have made := eq_ok_of_toOption built
  obtain ⟨slot, lengths⟩ := Prod.mk.inj facts
  have changes : ReflTransGen Double.Change (.fresh stub)
      ((Double.fresh stub).setCounter "f" ⟨3, []⟩) := .single (.counter _ slot)
  obtain ⟨same, looks⟩ := looksUp_of_buildStub made changes
  simp only [List.map_cons, List.map_nil, List.cons.injEq, and_true] at lengths
  obtain ⟨f, g, strange, both⟩ := lengths
  refine ⟨stub, _, made, rfl, same, looks, ?_, ?_, ?_, ?_⟩ <;> rw [looks.agrees, same] <;> omega

end SymbolTable
end Understudy
