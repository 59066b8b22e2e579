import Understudy.Proofs.Stub.Overrides

/-! What flattening an interface finds.

A walk is bounded by fuel and tells declarations apart by their names. Neither shows in what it
meets: it is the depth-first walk over all bases that can be followed. Main statement: what
flattening takes from the declarations on that walk.
-/

set_option autoImplicit false

namespace Understudy

open Understudy.Cpp

def visitedIn (met : List Encounter) : List (Declaration String) := met.filterMap (·.declaration?)

@[simp] theorem visitedIn_nil : visitedIn [] = [] := rfl

@[simp] theorem visitedIn_visited (d : Declaration String) (met : List Encounter) :
    visitedIn (.visited d :: met) = d :: visitedIn met := rfl

@[simp] theorem visitedIn_append (met more : List Encounter) :
    visitedIn (met ++ more) = visitedIn met ++ visitedIn more := List.filterMap_append

namespace SymbolTable

/-- The base that a declaration names, if it can be followed: it resolves in the scope of the
declaration, and is fully defined. -/
def base? (t : SymbolTable) (d : Declaration String) (base : String) :
    Option (Declaration String) := (t.resolve? base d.name).filter (·.isFull)

def basesOf (t : SymbolTable) (d : Declaration String) : List (Declaration String) :=
  d.bases.filterMap (t.base? d)

/-- The bases of a declaration that cannot be followed, as it names them. -/
def lostBases (t : SymbolTable) (d : Declaration String) : List String :=
  d.bases.filter fun base => (t.base? d base).isNone

def missed (t : SymbolTable) (d : Declaration String) (base : String) : Encounter :=
  .missing d.name base ((t.resolve? base d.name).map (·.name))

/-- What a depth-first walk meets over some bases of a declaration, once the declarations in `seen`
have been visited: a base that is new comes before its own bases, and these before the next one. -/
inductive Descends (t : SymbolTable) : List (Declaration String) → Declaration String →
    List String → List Encounter → Prop where
  | done {seen : List (Declaration String)} {d : Declaration String} : Descends t seen d [] []
  | missing {seen : List (Declaration String)} {d : Declaration String} {base : String}
      {rest : List String} {met : List Encounter} :
      t.base? d base = none → Descends t seen d rest met →
        Descends t seen d (base :: rest) (t.missed d base :: met)
  | again {seen : List (Declaration String)} {d b : Declaration String} {base : String}
      {rest : List String} {met : List Encounter} :
      t.base? d base = some b → b ∈ seen → Descends t seen d rest met →
        Descends t seen d (base :: rest) met
  | inward {seen : List (Declaration String)} {d b : Declaration String} {base : String}
      {rest : List String} {below met : List Encounter} :
      t.base? d base = some b → b ∉ seen → Descends t (seen ++ [b]) b b.bases below →
        Descends t (seen ++ b :: visitedIn below) d rest met →
          Descends t seen d (base :: rest) (.visited b :: below ++ met)

def next? (t : SymbolTable) (visited : List (Declaration String)) : Option (Declaration String) :=
  visited.reverse.findSome? fun d => (t.basesOf d).find? (· ∉ visited)

/-- An order in which declarations are visited depth first: it starts somewhere, and after any
beginning of it goes on with the base that is next, if there is one. -/
structure IsDepthFirst (t : SymbolTable) (d : Declaration String)
    (order : List (Declaration String)) : Prop where
  starts : order.head? = some d
  goesOn : ∀ before after, order = before ++ after → before ≠ [] → after.head? = t.next? before

variable {t : SymbolTable} {d b : Declaration String}

theorem base?_eq_some {base : String} :
    t.base? d base = some b ↔ t.resolve? base d.name = some b ∧ b.isFull = true := by
  rw [base?, Option.filter_eq_some_iff]

/-! ## A walk is depth first -/

theorem enter_eq (fuel : Nat) (d : Declaration String) (w : Walk) (base : String) :
    t.enter fuel d w base =
      match t.base? d base with
      | some b => t.walkFrom fuel w b
      | none => { w with met := w.met ++ [t.missed d base] } := by
  unfold enter base? missed
  cases found : t.resolve? base d.name with
  | none => rfl
  | some b => cases full : b.isFull <;> simp [full, Option.filter_some]

/-- A walk from a declaration adds nothing if that has been visited, and else the declaration and
what a depth-first walk meets below it. -/
def Continues (t : SymbolTable) (d : Declaration String) (w after : Walk) : Prop :=
  d ∈ w.visited ∧ after = w ∨
    d ∉ w.visited ∧ ∃ below, after.met = w.met ++ .visited d :: below ∧
      t.Descends (w.visited ++ [d]) d d.bases below

theorem visited_of_met {w after : Walk} {met : List Encounter} (grown : after.met = w.met ++ met) :
    after.visited = w.visited ++ visitedIn met := by
  unfold Walk.visited
  rw [grown, List.filterMap_append]
  rfl

theorem descends_foldl (arena : t.IsArena) {fuel : Nat}
    (each : ∀ {b : Declaration String} {w : Walk}, b ∈ t.declarations → t.Consistent w →
      t.unseen w.seen < fuel → t.Continues b w (t.walkFrom fuel w b))
    (bases : List String) {w : Walk} (consistent : t.Consistent w)
    (enough : t.unseen w.seen < fuel) :
    ∃ met, (bases.foldl (t.enter fuel d) w).met = w.met ++ met ∧
      t.Descends w.visited d bases met := by
  induction bases generalizing w with
  | nil => exact ⟨[], by simp, .done⟩
  | cons base rest ih =>
    rw [List.foldl_cons, enter_eq]
    cases followed : t.base? d base with
    | none =>
      obtain ⟨met, grown, later⟩ := ih (w := { w with met := w.met ++ [t.missed d base] })
        (consistent.missing _ _ _) enough
      refine ⟨t.missed d base :: met, by simpa using grown, .missing followed ?_⟩
      have same : Walk.visited { w with met := w.met ++ [t.missed d base] } = w.visited := by
        simp [Walk.visited, missed, Encounter.declaration?]
      rwa [same] at later
    | some b =>
      have known := mem_of_resolve? (base?_eq_some.mp followed).1
      obtain ⟨walked, _⟩ := walked_walkFrom arena known consistent enough
      have left : t.unseen (t.walkFrom fuel w b).seen < fuel :=
        Nat.lt_of_le_of_lt (unseen_le_of_subset (walked.seen_subset consistent)) enough
      obtain ⟨met, grown, later⟩ := ih walked.consistent left
      rcases each known consistent enough with ⟨old, same⟩ | ⟨new, below, added, inner⟩
      · rw [same] at later
        refine ⟨met, grown.trans ?_, .again followed old later⟩
        rw [same]
      · refine ⟨.visited b :: below ++ met, ?_, .inward followed new inner ?_⟩
        · rw [grown, added]
          simp
        · rwa [visited_of_met added, visitedIn_visited] at later

theorem continues_walkFrom (arena : t.IsArena) {fuel : Nat} {d : Declaration String} {w : Walk}
    (declared : d ∈ t.declarations) (consistent : t.Consistent w)
    (enough : t.unseen w.seen < fuel) : t.Continues d w (t.walkFrom fuel w d) := by
  induction fuel generalizing d w with
  | zero => omega
  | succ fuel ih =>
    rw [walkFrom_succ]
    split
    next known =>
      rw [List.contains_iff_mem] at known
      exact .inl ⟨consistent.visited_of_seen arena declared known, rfl⟩
    next new =>
      rw [List.contains_iff_mem] at new
      have fewer : t.unseen (w.visit d).seen < t.unseen w.seen :=
        unseen_lt_of_new (List.subset_append_left _ _) declared new (by simp [Walk.visit])
      obtain ⟨below, grown, descends⟩ := descends_foldl (d := d) arena ih d.bases
        (consistent.visit declared) (by omega)
      rw [Walk.visited_visit] at descends
      refine .inr ⟨fun old => new ?_, below, ?_, descends⟩
      · rw [consistent.seen]
        exact List.mem_map_of_mem old
      · rw [grown]
        simp [Walk.visit]

theorem IsArena.descends_walk (arena : t.IsArena) (declared : d ∈ t.declarations) :
    ∃ below, t.walk d = .visited d :: below ∧ t.Descends [d] d d.bases below := by
  have start : t.Consistent ⟨[], []⟩ := ⟨rfl, by simp [Walk.visited]⟩
  have enough : t.unseen [] < t.declarations.length + 2 := by
    have bound := t.unseen_le_length []
    omega
  rcases continues_walkFrom arena declared start enough with
    ⟨old, _⟩ | ⟨_, below, grown, descends⟩
  · cases old
  · exact ⟨below, grown, descends⟩

/-! ## Order and completeness -/

theorem Descends.nodup {seen : List (Declaration String)} {bases : List String}
    {met : List Encounter} (descends : t.Descends seen d bases met) :
    (visitedIn met).Nodup ∧ ∀ b ∈ visitedIn met, b ∉ seen := by
  induction descends with
  | done => simp
  | missing _ _ ih => exact ih
  | again _ _ _ ih => exact ih
  | @inward seen d b base rest below met _ new _ _ inner later =>
    rw [List.cons_append, visitedIn_visited, visitedIn_append]
    obtain ⟨distinct, fresh⟩ := inner
    obtain ⟨others, further⟩ := later
    simp only [List.mem_append, List.mem_cons, not_or, List.not_mem_nil, or_false] at fresh further
    refine ⟨List.nodup_cons.mpr ⟨?_, List.nodup_append.mpr ⟨distinct, others, ?_⟩⟩, ?_⟩
    · intro again
      rcases List.mem_append.mp again with below | after
      · exact (fresh b below).2 rfl
      · exact (further b after).2.1 rfl
    · rintro c below _ after rfl
      exact (further c after).2.2 below
    · intro c member
      rcases List.mem_cons.mp member with rfl | member
      · exact new
      · rcases List.mem_append.mp member with below | after
        · exact (fresh c below).1
        · exact (further c after).1

theorem Descends.perm_lost {seen : List (Declaration String)} {bases : List String}
    {met : List Encounter} (descends : t.Descends seen d bases met) :
    (met.filterMap (·.unresolved?)).Perm
      ((bases.filter fun base => (t.base? d base).isNone) ++
        (visitedIn met).flatMap t.lostBases) := by
  induction descends with
  | done => exact .nil
  | @missing seen d base rest met lost _ ih =>
    rw [List.filter_cons_of_pos (by simp [lost])]
    exact ih.cons base
  | @again seen d b base rest met followed _ _ ih =>
    rw [List.filter_cons_of_neg (by simp [followed])]
    exact ih
  | @inward seen d b base rest below met followed _ _ _ inner later =>
    rw [List.filter_cons_of_neg (by simp [followed]), List.cons_append, visitedIn_visited,
      visitedIn_append, List.flatMap_cons, List.flatMap_append]
    change ((below ++ met).filterMap (·.unresolved?)).Perm _
    rw [List.filterMap_append]
    -- What is lost below the base stands before what is lost behind it.
    apply (inner.append later).trans
    rw [← List.append_assoc (t.lostBases b)]
    exact List.perm_append_comm_assoc _ _ _

def ahead? (t : SymbolTable) (visited among : List (Declaration String)) :
    Option (Declaration String) :=
  among.reverse.findSome? fun d => (t.basesOf d).find? (· ∉ visited)

theorem ahead?_append (visited among more : List (Declaration String)) :
    t.ahead? visited (among ++ more) = (t.ahead? visited more).or (t.ahead? visited among) := by
  simp [ahead?, List.findSome?_append]

theorem ahead?_cons (visited : List (Declaration String)) (d : Declaration String)
    (more : List (Declaration String)) :
    t.ahead? visited (d :: more) = (t.ahead? visited more).or (t.ahead? visited [d]) :=
  ahead?_append visited [d] more

theorem ahead?_singleton (visited : List (Declaration String)) (d : Declaration String) :
    t.ahead? visited [d] = (t.basesOf d).find? (· ∉ visited) := by
  unfold ahead?
  rw [List.reverse_singleton, List.findSome?_singleton]

theorem ahead?_eq_none_of_subset {visited more among : List (Declaration String)}
    (grown : visited ⊆ more) (closed : t.ahead? visited among = none) :
    t.ahead? more among = none := by
  unfold ahead? at closed ⊢
  rw [List.findSome?_eq_none_iff] at closed ⊢
  intro d member
  have bases := closed d member
  rw [List.find?_eq_none] at bases ⊢
  intro b base new
  rw [decide_eq_true_eq] at new
  exact bases b base (decide_eq_true fun old => new (grown old))

theorem Descends.head?_eq_ahead? {seen : List (Declaration String)} {bases : List String}
    {met : List Encounter} (descends : t.Descends seen d bases met)
    (dealt : List (Declaration String)) (own : t.basesOf d = dealt ++ bases.filterMap (t.base? d))
    (known : ∀ b ∈ dealt, b ∈ seen) {before after : List (Declaration String)}
    (split : visitedIn met = before ++ after) :
    after.head? = t.ahead? (seen ++ before) (d :: before) := by
  induction descends generalizing dealt before after with
  | @done seen d =>
    obtain ⟨rfl, rfl⟩ := List.append_eq_nil_iff.mp split.symm
    rw [List.append_nil, ahead?_singleton, own]
    refine (List.find?_eq_none.mpr ?_).symm
    simpa using known
  | @missing seen d base rest met lost _ ih =>
    refine ih dealt ?_ known split
    rw [own, List.filterMap_cons_none lost]
  | @again seen d b base rest met followed old _ ih =>
    refine ih (dealt ++ [b]) ?_ ?_ split
    · rw [own, List.filterMap_cons_some followed]
      simp
    · intro c member
      rcases List.mem_append.mp member with earlier | here
      · exact known c earlier
      · rwa [List.mem_singleton.mp here]
  | @inward seen d b base rest below met followed new _ _ inner later =>
    have own' : t.basesOf d = (dealt ++ [b]) ++ rest.filterMap (t.base? d) := by
      rw [own, List.filterMap_cons_some followed]
      simp
    have known' : ∀ c ∈ dealt ++ [b], c ∈ seen ++ b :: visitedIn below := by
      intro c member
      rcases List.mem_append.mp member with earlier | here
      · exact List.mem_append_left _ (known c earlier)
      · rw [List.mem_singleton.mp here]
        simp
    have inside {before after : List (Declaration String)}
        (split : visitedIn below = before ++ after) :
        after.head? = t.ahead? (seen ++ b :: before) (b :: before) := by
      have within := inner [] rfl (by simp) split
      rwa [List.append_assoc, List.singleton_append] at within
    rw [List.cons_append, visitedIn_visited, visitedIn_append] at split
    cases before with
    | nil =>
      obtain rfl := split.symm
      rw [List.append_nil, ahead?_singleton, own', List.append_assoc, List.find?_append,
        List.find?_eq_none.mpr (by simpa using known)]
      simp [new]
    | cons head before =>
      rw [List.cons_append] at split
      obtain ⟨rfl, tails⟩ := List.cons.inj split
      rw [ahead?_cons]
      -- The walk is still below the base, or has left it and everything below it behind.
      have cut : (∃ x behind, visitedIn below = before ++ x :: behind ∧ after.head? = some x) ∨
          ∃ passed, before = visitedIn below ++ passed ∧ visitedIn met = passed ++ after := by
        rcases List.append_eq_append_iff.mp tails with ⟨passed, rfl, left⟩ | ⟨behind, all, rfl⟩
        · exact .inr ⟨passed, rfl, left⟩
        · cases behind with
          | nil => exact .inr ⟨[], by simpa using all.symm, rfl⟩
          | cons x behind => exact .inl ⟨x, behind, all, rfl⟩
      rcases cut with ⟨x, behind, all, first⟩ | ⟨passed, rfl, left⟩
      · rw [← inside all, first]
        rfl
      · have grown : seen ++ b :: visitedIn below ⊆ seen ++ b :: (visitedIn below ++ passed) := by
          rw [← List.cons_append, ← List.append_assoc]
          exact List.subset_append_left _ _
        have closed := ahead?_eq_none_of_subset grown (inside (List.append_nil _).symm).symm
        have outside := later _ own' known' left
        rw [ahead?_cons, List.append_assoc, List.cons_append] at outside
        rw [← List.cons_append, ahead?_append, List.cons_append, closed, Option.or_none]
        exact outside

theorem Descends.isDepthFirst {below : List Encounter}
    (descends : t.Descends [d] d d.bases below) : t.IsDepthFirst d (d :: visitedIn below) := by
  refine ⟨rfl, fun before after split proper => ?_⟩
  cases before with
  | nil => exact absurd rfl proper
  | cons first before =>
    rw [List.cons_append] at split
    obtain ⟨rfl, tails⟩ := List.cons.inj split
    exact descends.head?_eq_ahead? [] rfl (by simp) tails

/-! ## What is taken from the declarations visited -/

/-- The pure methods of a declaration that are of some kind. -/
def pureOf (kind : String → Method String → Bool) (d : Declaration String) : List Inherited :=
  (d.methods.filter fun m => m.isPure && kind d.name m).map (d.name, ·)

theorem filter_flatMap_pureMethods (kind : String → Method String → Bool)
    (order : List (Declaration String)) :
    (order.flatMap pureMethods).filter (fun x => kind x.1 x.2) = order.flatMap (pureOf kind) := by
  rw [List.filter_flatMap]
  congr 1
  funext d
  unfold pureMethods pureOf
  rw [List.filter_map, List.filter_filter]
  congr 2
  funext m
  exact Bool.and_comm _ _

/-- Of each signature in a list the entry that comes first, in the order of the list. -/
structure IsSelection (entries kept : List Inherited) : Prop where
  ordered : kept.Sublist entries
  once : (kept.map (·.2.signature)).Nodup
  complete : ∀ x ∈ entries, ∃ y ∈ kept, y.2.signature = x.2.signature
  first : ∀ x ∈ kept, ComesFirst entries x

theorem isSelection_firstBySignature (entries : List Inherited) :
    IsSelection entries (firstBySignature [] entries) := by
  have kept {x : Inherited} : x ∈ firstBySignature [] entries ↔ ComesFirst entries x := by
    rw [mem_firstBySignature]
    exact and_iff_right List.not_mem_nil
  refine ⟨firstBySignature_sublist _ _, nodup_firstBySignature _ _, ?_, fun x => kept.mp⟩
  intro x member
  obtain ⟨y, first, same⟩ := exists_comesFirst member
  exact ⟨y, kept.mpr first, same⟩

/-- What flattening a declaration finds, where `met` is what its walk meets. -/
structure Collects (t : SymbolTable) (d : Declaration String) (met : List Encounter)
    (found : Flattened) : Prop where
  walked : ∃ below, met = .visited d :: below ∧ t.Descends [d] d d.bases below
  depthFirst : t.IsDepthFirst d (visitedIn met)
  once : (visitedIn met).Nodup
  reached : ∀ b, b ∈ visitedIn met ↔ t.Inherits d b
  methods : IsSelection ((visitedIn met).flatMap (pureOf isOrdinary)) found.methods
  passthrough : IsSelection
    ((visitedIn met).flatMap (pureOf fun owner m => specialMember? owner m == some .assignment))
    found.passthrough
  /-- In the order in which the walk comes to them. -/
  unresolved : found.unresolved = met.filterMap (·.unresolved?)
  /-- All that cannot be followed, as often as declarations name it. -/
  lost : found.unresolved.Perm ((visitedIn met).flatMap t.lostBases)
  spelled : t.IsSpelled → found.isSpelled = true

/-- Flattening a declaration of a table visits it and everything it inherits, each once and depth
first, and takes from them the first method of each signature and all bases that lead nowhere. -/
theorem collects_flatten (built : t.Built) (declared : d ∈ t.declarations) :
    t.Collects d (t.walk d) (t.flatten d) := by
  have arena := built.isArena
  obtain ⟨below, walked, descends⟩ := arena.descends_walk declared
  have visited : visitedIn (t.walk d) = d :: visitedIn below := by
    rw [walked, visitedIn_visited]
  obtain ⟨distinct, fresh⟩ := descends.nodup
  refine
    { walked := ⟨below, walked, descends⟩
      depthFirst := visited ▸ descends.isDepthFirst
      once := ?once
      reached := fun b => arena.mem_lineage declared
      methods := ?methods
      passthrough := ?passthrough
      unresolved := rfl
      lost := ?lost
      spelled := fun spelled => isSpelled_flatten arena spelled declared }
  case once =>
    rw [visited, List.nodup_cons]
    exact ⟨fun again => fresh d again List.mem_cons_self, distinct⟩
  case methods =>
    rw [← filter_flatMap_pureMethods]
    exact isSelection_firstBySignature _
  case passthrough =>
    rw [← filter_flatMap_pureMethods]
    exact isSelection_firstBySignature _
  case lost =>
    change ((t.walk d).filterMap (·.unresolved?)).Perm _
    rw [visited, walked, List.flatMap_cons]
    exact descends.perm_lost

/-! ## A diamond with a cycle -/

def assigning (name : String) : Method String := { pointing name with name := "operator=" }

/-- Has two bases that share one, and is a base of the second. -/
def apex : Declaration String :=
  declaring "Apex" .interface ["Left", "Unknown", "Right"] [pointing "T"]

def cyclicDiamond : List (UnitRecord String) :=
  [{ name := .null
     declarations :=
       [declaring "Core" .interface [] [pointing "U", assigning "T"],
        declaring "Left" .interface ["Core", "Gone"] [pointing "T"],
        declaring "Right" .interface ["Core", "Apex", "Late"] [assigning "T"],
        { declaring "Late" .interface [] [] with isFull := false }, apex]
     bodies := [], header := .null }]

theorem collects_flatten_apex :
    let t := (merge cyclicDiamond).1
    apex ∈ t.declarations ∧ t.Collects apex (t.walk apex) (t.flatten apex) ∧
      (visitedIn (t.walk apex)).map (·.name) = ["Apex", "Left", "Core", "Right"] ∧
        (t.flatten apex).methods = [("Apex", pointing "T"), ("Core", pointing "U")] ∧
          (t.flatten apex).passthrough = [("Core", assigning "T")] ∧
            (t.flatten apex).unresolved = ["Gone", "Unknown", "Late"] := by
  intro t
  have found : t.get? "Apex" = some apex := by decide +kernel
  have declared := mem_of_get? found
  refine ⟨declared, collects_flatten (built_merge cyclicDiamond) declared, ?_, ?_, ?_, ?_⟩ <;>
    decide +kernel

end SymbolTable
end Understudy
