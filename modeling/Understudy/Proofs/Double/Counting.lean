import Understudy.Proofs.Double.Journal
import Understudy.Proofs.Double.Moves

/-! What counters count.

Main statement: whatever a test does, and wherever a run is stopped, every counter says what the
journal says of it. What befalls one counter leaves all others alone, and what a step does to other
counters is what the callback does that it calls.
-/

set_option autoImplicit false

namespace Understudy

namespace Double

variable {d : Double} {m : InstrumentedMethod}

theorem counter?_accessor (member : m ∈ d.stub.methods) :
    d.counter? m.accessor = d.counters.get? m.accessor := by
  rw [counter?, Stub.slotKey_accessor member]

theorem get?_map_accessor {α : Type} {value : InstrumentedMethod → α} {ms : List InstrumentedMethod}
    (member : m ∈ ms) (same : ∀ n ∈ ms, n.accessor = m.accessor → value n = value m) :
    Assoc.get? (ms.map fun n => (n.accessor, value n)) m.accessor = some (value m) := by
  induction ms with
  | nil => cases member
  | cons n rest ih =>
    rw [List.map_cons, Assoc.get?]
    split
    next here => rw [same n List.mem_cons_self here]
    next elsewhere =>
      have later : m ∈ rest := (List.mem_cons.mp member).resolve_left fun same =>
        elsewhere (congrArg (·.accessor) same).symm
      exact ih later fun n member => same n (List.mem_cons_of_mem _ member)

theorem counter?_fresh {stub : Stub} (member : m ∈ stub.methods) :
    (fresh stub).counter? m.accessor = some .fresh := by
  rw [counter?_accessor (d := fresh stub) member]
  exact get?_map_accessor member fun _ _ _ => rfl

theorem counter?_setCounter (member : m ∈ d.stub.methods) (key : String) (c : Counter) :
    (d.setCounter key c).counter? m.accessor =
      if d.stub.slotKey key = m.accessor then some c else d.counter? m.accessor := by
  rw [counter?_accessor member, counter?_accessor (d := d.setCounter key c) member]
  unfold setCounter
  split
  next same => rw [same, Assoc.get?_set_self]
  next apart => rw [Assoc.get?_set_ne _ _ (Ne.symm apart)]

theorem counter?_resetSpace {space : Space} :
    (d.resetSpace space).counter? m.accessor =
      if space = .counter then (d.counter? m.accessor).map fun _ => .fresh
      else d.counter? m.accessor := by
  cases space with
  | counter => exact Assoc.get?_map d.counters (fun _ => Counter.fresh) _
  | callback | static => rfl

theorem counter?_resetAll :
    d.resetAll.counter? m.accessor = (d.counter? m.accessor).map fun _ => .fresh :=
  Assoc.get?_map d.counters (fun _ => Counter.fresh) _

end Double

namespace Bench

variable {b c : Bench} {number : Nat} {d : Double} {m : InstrumentedMethod}

/-- Every counter says what the journal says of it. -/
structure IsCounted (b : Bench) : Prop where
  counters : ∀ number d, b.double? number = some d → ∀ m ∈ d.stub.methods,
    ∃ c, d.counter? m.accessor = some c ∧ c.Tells (standing b.journal number m.accessor)
  born : ∀ e ∈ b.journal, ∀ number accessor, e.calls number accessor = true →
    number < b.doubles.length

theorem isCounted_empty (generator : Generator) : (empty generator).IsCounted where
  counters := by simp [empty, double?]
  born := by simp [empty]

theorem standing_of_uncalled {journal : List Entry} {accessor : String}
    (uncalled : ∀ e ∈ journal, e.calls number accessor = false) :
    standing journal number accessor = [] := by
  unfold standing
  rw [List.filter_eq_nil_iff]
  intro e member
  rw [List.mem_reverse] at member
  have listed := List.mem_reverse.mp ((List.takeWhile_sublist _).subset member)
  simp [uncalled e listed]

theorem IsCounted.congr (counted : b.IsCounted) (doubles : c.doubles = b.doubles)
    (journal : c.journal = b.journal) : c.IsCounted where
  counters := fun number d found => by
    rw [journal]
    exact counted.counters number d (by rwa [double?, ← doubles])
  born := by
    rw [journal, doubles]
    exact counted.born

theorem double?_update_eq_some {change : Double → Double} {n : Nat} :
    (b.update number change).double? n = some d ↔
      n ≠ number ∧ b.double? n = some d ∨
        n = number ∧ ∃ before, b.double? number = some before ∧ change before = d := by
  by_cases same : n = number
  · subst same
    rw [double?_update_self, Option.map_eq_some_iff]
    simp
  · rw [double?_update_ne b change (Ne.symm same)]
    simp [same]

theorem IsCounted.noting (counted : b.IsCounted) {e : Entry} {change : Double → Double}
    (stubs : ∀ d, (change d).stub = d.stub)
    (local_ : ∀ n accessor, e.touches n accessor = true → n = number)
    (born : ∀ n accessor, e.calls n accessor = true → n < b.doubles.length)
    (tells : ∀ d, b.double? number = some d → ∀ m ∈ d.stub.methods, ∀ c : Counter,
      d.counter? m.accessor = some c → c.Tells (standing b.journal number m.accessor) →
        ∃ c' : Counter, (change d).counter? m.accessor = some c' ∧
          c'.Tells (standing (b.journal ++ [e]) number m.accessor)) :
    ((b.note e).update number change).IsCounted where
  counters := by
    intro n d found m member
    rcases double?_update_eq_some.mp found with ⟨apart, old⟩ | ⟨rfl, before, old, rfl⟩
    -- The entry is about one double, and the counters of all others stay as they are.
    · obtain ⟨c, there, tells⟩ := counted.counters n d old m member
      have untouched : e.touches n m.accessor = false :=
        Bool.eq_false_iff.mpr fun touched => apart (local_ n m.accessor touched)
      refine ⟨c, there, ?_⟩
      change c.Tells (standing (b.journal ++ [e]) n m.accessor)
      rw [standing_append]
      · exact tells
      · intro other listed
        rw [List.mem_singleton.mp listed, untouched]
    · rw [stubs before] at member
      obtain ⟨c, there, before_⟩ := counted.counters n before old m member
      exact tells before old m member c there before_
  born := by
    intro other listed n accessor called
    have length : ((b.note e).update number change).doubles.length = b.doubles.length :=
      List.length_modify _ _ _
    rw [length]
    rcases List.mem_append.mp listed with earlier | last
    · exact counted.born other earlier n accessor called
    · cases List.mem_singleton.mp last
      exact born n accessor called

/-! ## One change -/

theorem IsCounted.create (counted : b.IsCounted) (stub : Stub) :
    IsCounted { b with doubles := b.doubles ++ [.fresh stub] } where
  counters := by
    intro n d found m member
    rw [double?, List.getElem?_append] at found
    split at found
    next => exact counted.counters n d found m member
    next late =>
      rw [List.getElem?_singleton] at found
      split at found
      next =>
        cases found
        refine ⟨.fresh, Double.counter?_fresh member, ?_⟩
        -- All calls in the journal are of doubles that were there before.
        rw [standing_of_uncalled]
        · exact Counter.tells_fresh
        · intro e listed
          exact Bool.eq_false_iff.mpr fun called =>
            late (counted.born e listed n m.accessor called)
      next => cases found
  born := by
    intro e listed n accessor called
    have early := counted.born e listed n accessor called
    rw [List.length_append]
    omega

theorem IsCounted.alter (counted : b.IsCounted) {change : Double → Double}
    (beside : ∀ d, (change d).stub = d.stub ∧ (change d).counters = d.counters) :
    (b.update number change).IsCounted where
  counters := by
    intro n d found m member
    rcases double?_update_eq_some.mp found with ⟨_, old⟩ | ⟨rfl, before, old, rfl⟩
    · exact counted.counters n d old m member
    · obtain ⟨stubs, counters⟩ := beside before
      have same : (change before).counter? m.accessor = before.counter? m.accessor := by
        rw [Double.counter?, Double.counter?, stubs, counters]
      rw [stubs] at member
      rw [same]
      exact counted.counters n before old m member
  born := by
    intro e listed n accessor called
    have length : (b.update number change).doubles.length = b.doubles.length :=
      List.length_modify _ _ _
    rw [length]
    exact counted.born e listed n accessor called

theorem IsCounted.reset (counted : b.IsCounted) (number : Nat) (space : Space) (key : String) :
    (b.reset number space key).IsCounted := by
  cases space with
  | counter =>
    refine counted.noting (fun d => rfl) ?_ ?_ ?_
    · intro n accessor touched
      simp only [Entry.touches, Entry.resets, Entry.calls, Bool.or_false, Bool.and_eq_true,
        beq_iff_eq] at touched
      exact touched.1.symm
    · intro n accessor called
      cases called
    · intro d found m member c there tells
      -- The journal notes what the key leads to, and the counter is looked up by the same.
      have resets : Entry.resets number m.accessor
          (.reset number (((b.double? number).map (·.stub.slotKey key)).getD key)) =
            (d.stub.slotKey key == m.accessor) := by
        rw [found]
        simp [Entry.resets]
      rw [standing_concat, resets]
      change ∃ c', (d.setCounter key .fresh).counter? m.accessor = some c' ∧ _
      rw [Double.counter?_setCounter member]
      by_cases same : d.stub.slotKey key = m.accessor
      · rw [if_pos same, if_pos (by simpa using same)]
        exact ⟨.fresh, rfl, Counter.tells_fresh⟩
      · rw [if_neg same, if_neg (by simpa using same)]
        exact ⟨c, there, by simpa [Entry.calls] using tells⟩
  | callback => exact counted.alter fun d => ⟨rfl, rfl⟩
  | static =>
    refine counted.alter fun d => ?_
    unfold Double.reset Double.setStatic
    dsimp only
    split
    · split <;> exact ⟨rfl, rfl⟩
    · exact ⟨rfl, rfl⟩

theorem IsCounted.resetting (counted : b.IsCounted) {change : Double → Double}
    (stubs : ∀ d, (change d).stub = d.stub)
    (fresh : ∀ (d : Double) (m : InstrumentedMethod),
      (change d).counter? m.accessor = (d.counter? m.accessor).map fun _ => .fresh) :
    ((b.note (.resetAll number)).update number change).IsCounted := by
  refine counted.noting stubs ?_ ?_ ?_
  · intro n accessor touched
    simp only [Entry.touches, Entry.resets, Entry.calls, Bool.or_false, beq_iff_eq] at touched
    exact touched.symm
  · intro n accessor called
    cases called
  · intro d _ m _ c there _
    refine ⟨.fresh, by rw [fresh, there]; rfl, ?_⟩
    rw [standing_concat, if_pos (by simp [Entry.resets])]
    exact Counter.tells_fresh

theorem IsCounted.resetSpace (counted : b.IsCounted) (number : Nat) (space : Space) :
    (b.resetSpace number space).IsCounted := by
  cases space with
  | counter => exact counted.resetting (fun _ => rfl) fun _ _ => Double.counter?_resetSpace
  | callback | static => exact counted.alter fun d => ⟨rfl, rfl⟩

theorem IsCounted.resetAll (counted : b.IsCounted) (number : Nat) :
    (b.resetAll number).IsCounted :=
  counted.resetting (fun _ => rfl) fun _ _ => Double.counter?_resetAll

def counting (m : InstrumentedMethod) (d : Double) : Double :=
  let counter := (d.counter? m.accessor).getD .fresh
  d.setCounter m.accessor { counter with calls := counter.calls + 1 }

def keeping (m : InstrumentedMethod) (params : List Datum) (d : Double) : Double :=
  d.setCounter m.accessor { (d.counter? m.accessor).getD .fresh with params }

theorem accept_eq (b : Bench) (number : Nat) (m : InstrumentedMethod) (args : List Datum) :
    b.accept number m args =
      let noted := b.note (.call number m args b.heap)
      match (keep m.method.parameters args).run.run b.heap with
      | (.error slip, heap) => ({ noted.update number (counting m) with heap }, .error slip)
      | (.ok params, heap) =>
        ({ noted.update number (keeping m params ∘ counting m) with heap }, .ok ()) := by
  -- Noting and counting leave the heap alone, so arguments are kept in the one of the entry.
  have worked : (((b.note (.call number m args b.heap)).count number m).onHeap
      (keep m.method.parameters args)) =
        let (result, heap) := (keep m.method.parameters args).run.run b.heap
        ({ (b.note (.call number m args b.heap)).count number m with heap }, result) := rfl
  rcases ran : (keep m.method.parameters args).run.run b.heap with ⟨slip | params, heap⟩ <;>
    rw [ran] at worked <;> rw [Bench.accept, record, worked]
  · rfl
  · simp only [update, List.modify_modify_eq, count, note]
    rfl

theorem accept_cases (b : Bench) (number : Nat) (m : InstrumentedMethod) {args : List Datum}
    (arity : args.length = m.arity) :
    let e := Entry.call number m args b.heap
    (∃ heap slip, (∀ kept, ¬ e.Keeps kept) ∧ b.accept number m args =
        ({ (b.note e).update number (counting m) with heap }, .error slip)) ∨
      ∃ heap params, Kept m.method.parameters args b.heap params heap ∧ b.accept number m args =
        ({ (b.note e).update number (keeping m params ∘ counting m) with heap }, .ok ()) := by
  intro e
  have accepted := b.accept_eq number m args
  rcases ran : (keep m.method.parameters args).run.run b.heap with ⟨slip | params, heap⟩ <;>
    rw [ran] at accepted
  · refine .inl ⟨heap, slip, ?_, accepted⟩
    rintro kept ⟨after, keeps⟩
    rw [(keep_eq_ok arity).mpr keeps] at ran
    cases ran
  · exact .inr ⟨heap, params, (keep_eq_ok arity).mp ran, accepted⟩

theorem IsCounted.calling (counted : b.IsCounted) {args : List Datum} {heap : Heap}
    (bound : number < b.doubles.length) {change : Double → Double} (after : Counter → Counter)
    (stubs : ∀ d, (change d).stub = d.stub)
    (sets : ∀ (d : Double), ∀ n ∈ d.stub.methods, m ∈ d.stub.methods →
      (change d).counter? n.accessor =
        if m.accessor = n.accessor then some (after ((d.counter? m.accessor).getD .fresh))
        else d.counter? n.accessor)
    (known : b.double? number = some d) (member : m ∈ d.stub.methods)
    (tells : ∀ (c : Counter) (calls : List Entry), c.Tells calls →
      (after c).Tells (calls ++ [.call number m args heap])) :
    ((b.note (.call number m args heap)).update number change).IsCounted := by
  refine counted.noting stubs ?_ ?_ ?_
  · intro n accessor touched
    simp only [Entry.touches, Entry.resets, Entry.calls, Bool.false_or, Bool.and_eq_true,
      beq_iff_eq] at touched
    exact touched.1.symm
  · intro n accessor called
    simp only [Entry.calls, Bool.and_eq_true, beq_iff_eq] at called
    exact called.1 ▸ bound
  · intro d' known' n member' c there told
    rw [known] at known'
    cases known'
    -- The methods of one double are told apart by their accessors.
    have stands : standing (b.journal ++ [.call number m args heap]) number n.accessor =
        standing b.journal number n.accessor ++
          if m.accessor = n.accessor then [.call number m args heap] else [] := by
      simp [standing_concat, Entry.resets, Entry.calls]
    rw [sets d n member' member, stands]
    split
    next same =>
      rw [same, there]
      exact ⟨_, rfl, tells c _ told⟩
    next =>
      rw [List.append_nil]
      exact ⟨c, there, told⟩

theorem IsCounted.accept (counted : b.IsCounted) {args : List Datum}
    (known : b.double? number = some d) (member : m ∈ d.stub.methods)
    (arity : args.length = m.arity) : IsCounted (b.accept number m args).1 := by
  have bound : number < b.doubles.length := (List.getElem?_eq_some_iff.mp known).1
  have counts (d : Double) (n : InstrumentedMethod) (listed : n ∈ d.stub.methods)
      (member : m ∈ d.stub.methods) : (counting m d).counter? n.accessor =
        if m.accessor = n.accessor then
          some { (d.counter? m.accessor).getD .fresh with
            calls := ((d.counter? m.accessor).getD .fresh).calls + 1 }
        else d.counter? n.accessor := by
    rw [counting, Double.counter?_setCounter listed, Stub.slotKey_accessor member]
  rcases accept_cases b number m arity with ⟨heap, slip, lost, ran⟩ | ⟨heap, params, keeps, ran⟩
  · rw [ran]
    refine IsCounted.congr (b := (b.note _).update number (counting m)) ?_ rfl rfl
    exact counted.calling bound _ (fun d => rfl) counts known member
      fun c calls told => told.missing lost
  · rw [ran]
    refine IsCounted.congr
      (b := (b.note _).update number (keeping m params ∘ counting m)) ?_ rfl rfl
    refine counted.calling bound (fun c => ⟨c.calls + 1, params⟩) (fun d => rfl) ?_
      known member fun c calls told => told.keeping ⟨heap, keeps⟩
    intro d n listed member
    rw [Function.comp_apply, keeping, Double.counter?_setCounter (d := counting m d) listed,
      show (counting m d).stub = d.stub from rfl, Stub.slotKey_accessor member,
      counts d m member member, counts d n listed member]
    split <;> simp_all

theorem Move.isCounted (move : Move b c) (counted : b.IsCounted) : c.IsCounted := by
  cases move with
  | beside generator heap handles locals => exact counted.congr rfl rfl
  | create stub => exact counted.create stub
  | alter number beside => exact counted.alter beside
  | accept found member arity => exact counted.accept found member arity
  | reset number space key => exact counted.reset number space key
  | resetSpace number space => exact counted.resetSpace number space
  | resetAll number => exact counted.resetAll number

theorem Moves.isCounted (moves : Moves b c) (counted : b.IsCounted) : c.IsCounted := by
  induction moves with
  | refl => exact counted
  | tail _ move ih => exact move.isCounted ih

end Bench
end Understudy
