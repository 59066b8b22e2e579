import Understudy.Proofs.Ownership.Sort
import Understudy.Proofs.Stub.Worklist

/-! The doubles that a generator keeps after any requests.

Main statement: it keeps the doubles of all interfaces that the requests need, and no others. So
neither the order of the requests nor their repetition matters, and a request that is refused
leaves no trace.
-/

set_option autoImplicit false

open Relation

namespace Understudy

open Understudy.Cpp

/-- A request for one double, or for several in turn up to the first that fails. -/
inductive Request where
  | single (name : String)
  | batch (names : List String)
  deriving DecidableEq, Repr

namespace Request

def names : Request → List String
  | .single name => [name]
  | .batch names => names

def answered (t : SymbolTable) (r : Request) : List String :=
  r.names.takeWhile fun name => (t.interface name).isOk

end Request

namespace SymbolTable

def listing (t : SymbolTable) : Option Classification → List String
  | some c => c.order
  | none => t.names

variable {t : SymbolTable} {name : String}

inductive Refused (t : SymbolTable) (name : String) : InterfaceFault → Prop where
  | undeclared : t.resolve? name "" = none → Refused t name (.undeclared name)
  | notInterface {d : Declaration String} :
      t.resolve? name "" = some d → d.isInterface = false → Refused t name (.notInterface d.name)
  | onlyForward {d : Declaration String} :
      t.resolve? name "" = some d → d.isInterface = true → d.isFull = false →
        Refused t name (.onlyForward d.name)

theorem interface_eq_error {fault : InterfaceFault} :
    t.interface name = .error fault ↔ t.Refused name fault := by
  unfold interface
  constructor
  · intro refused
    split at refused
    next missing =>
      cases refused
      exact .undeclared missing
    next found =>
      split at refused
      next other =>
        cases refused
        exact .notInterface found (by simpa using other)
      next proper =>
        split at refused
        next forward =>
          cases refused
          exact .onlyForward found (by simpa using proper) (by simpa using forward)
        next => cases refused
  · intro refused
    cases refused with
    | undeclared missing => rw [missing]
    | notInterface found other =>
      rw [found]
      simp [other]
    | onlyForward found proper forward =>
      rw [found]
      simp [proper, forward]

end SymbolTable

namespace Generator

def serve (g : Generator) : Request → Generator
  | .single name => (g.generate name).1
  | .batch names => (g.generateEach names).1

def serveAll (g : Generator) (requests : List Request) : Generator := requests.foldl serve g

/-- A generator keeps exactly what requests for some names need. -/
structure Keeps (t : SymbolTable) (lead : Value) (names : List String) (g : Generator) : Prop where
  distinct : g.memo.keys.Nodup
  keys : ∀ name, name ∈ g.memo.keys ↔ t.Needed lead names name
  entries : ∀ name stub, g.memo.get? name = some stub →
    ∃ d, t.get? name = some d ∧ t.buildStub lead d = .ok stub
  /-- Every double is listed once, and they are listed in order. -/
  listed : g.interfaceOrder.Perm g.memo.keys
  ordered : g.interfaceOrder = (t.listing g.classification).filter fun name => g.memo.has name
  stubs : g.stubs.map some = g.interfaceOrder.map g.memo.get?

/-- How a generator meets any further request. -/
structure Serves (t : SymbolTable) (lead : Value) (g : Generator) : Prop where
  terminates : ∀ worklist, Acc (fun next state => Turn state next) (g, worklist)
  refuses : ∀ name fault, (g.generate name).2 = .error fault ↔
    ∃ why, fault = .interface why ∧ t.Refused name why
  unchanged : ∀ name fault, (g.generate name).2 = .error fault → (g.generate name).1 = g
  answers : ∀ name stub, (g.generate name).2 = .ok stub → ∃ d, t.interface name = .ok d ∧
    t.buildStub lead d = .ok stub ∧ ReflTransGen Turn (g, [d.name]) ((g.generate name).1, [])
  /-- Of several requests each is answered only if all before it are. -/
  each : ∀ names, (g.generateEach names).2 = none ↔ ∀ name ∈ names, ∃ d, t.interface name = .ok d
  /-- No double is ever replaced. -/
  kept : ∀ requests name stub, g.memo.get? name = some stub →
    (g.serveAll requests).memo.get? name = some stub

variable {t : SymbolTable} {lead : String} {names : List String} {g : Generator}

/-! ## One request -/

theorem Owes.interface_eq {worklist : List String} (owes : Owes t lead names g worklist)
    (name : String) : g.table.interface name = t.interface name := by
  obtain ⟨ds, table⟩ := owes.table
  rw [table]
  rfl

theorem Owes.generate_error {worklist : List String} (owes : Owes t lead names g worklist)
    {name : String} {fault : InterfaceFault} (refused : t.interface name = .error fault) :
    g.generate name = (g, .error (.interface fault)) := by
  unfold generate
  rw [owes.interface_eq, refused]

theorem Owes.ask (owes : Owes t lead names g []) {name : String} {d : Declaration String}
    (stands : t.interface name = .ok d) : Owes t lead (names ++ [name]) g [d.name] := by
  refine ⟨owes.table, owes.led, owes.distinct, owes.entries, ?needed, ?asked, ?nested⟩
  case needed =>
    rintro n (known | due)
    · exact (owes.needed n (.inl known)).mono (List.subset_append_left _ _)
    · rw [List.mem_singleton.mp due]
      exact .asked (by simp) stands
  case asked =>
    intro n member b found
    rcases List.mem_append.mp member with old | new
    · rcases owes.asked n old b found with known | due
      · exact .inl known
      · cases due
    · rw [List.mem_singleton.mp new, stands] at found
      cases found
      exact .inr List.mem_cons_self
  case nested =>
    intro n stub known other handed
    rcases owes.nested n stub known other handed with known | due
    · exact .inl known
    · cases due

theorem Owes.generate_ok (arena : t.IsArena) (spelled : t.IsSpelled) (owes : Owes t lead names g [])
    {name : String} {d : Declaration String} (stands : t.interface name = .ok d) :
    ∃ after stub, g.generate name = (after, .ok stub) ∧ t.buildStub (.text lead) d = .ok stub ∧
      ReflTransGen Turn (g, [d.name]) (after, []) ∧ Owes t lead (names ++ [name]) after [] ∧
        g.Grown after := by
  obtain ⟨ds, table⟩ := owes.table
  have enough : t.unseen g.memo.keys < g.table.declarations.length + 1 := by
    rw [table]
    exact Nat.lt_succ_of_le (t.unseen_le_length _)
  obtain ⟨after, worked, run⟩ := turns_of_work arena spelled (owes.ask stands) enough
  obtain ⟨settled, grown⟩ := owes_of_turns arena run (owes.ask stands)
  have known : after.memo.has d.name = true :=
    settled.has_iff_needed.mpr (.asked (by simp) stands)
  obtain ⟨stub, kept⟩ := Option.isSome_iff_exists.mp known
  obtain ⟨b, found, built⟩ := settled.entries d.name stub kept
  have declared := (SymbolTable.isFullInterface_of_interface stands).1
  rw [arena.get?_eq_some.mpr ⟨declared, rfl⟩] at found
  cases found
  refine ⟨after, stub, ?_, built, run, settled, grown⟩
  unfold generate
  rw [owes.interface_eq, stands]
  simp only [worked, kept]

/-! ## Any requests -/

theorem Owes.generateEach (arena : t.IsArena) (spelled : t.IsSpelled)
    (owes : Owes t lead names g []) (more : List String) :
    Owes t lead (names ++ more.takeWhile fun name => (t.interface name).isOk)
        (g.generateEach more).1 [] ∧
      g.Grown (g.generateEach more).1 ∧
        ((g.generateEach more).2 = none ↔ ∀ name ∈ more, ∃ d, t.interface name = .ok d) := by
  induction more generalizing g names with
  | nil =>
    rw [List.takeWhile_nil, List.append_nil]
    exact ⟨owes, .refl g, by simp [Generator.generateEach]⟩
  | cons name rest ih =>
    unfold Generator.generateEach
    cases stands : t.interface name with
    | error fault =>
      rw [owes.generate_error stands]
      simp only [List.takeWhile_cons, stands, Except.isOk, Except.toBool, Bool.false_eq_true,
        if_false, List.append_nil]
      exact ⟨owes, .refl g, by simp [stands]⟩
    | ok d =>
      obtain ⟨after, stub, generated, _, _, settled, grown⟩ :=
        owes.generate_ok arena spelled stands
      obtain ⟨later, others, outcome⟩ := ih settled
      rw [generated]
      simp only [List.takeWhile_cons, stands, Except.isOk, Except.toBool, if_true]
      rw [List.append_assoc, List.singleton_append] at later
      refine ⟨later, grown.trans others, outcome.trans ?_⟩
      rw [List.forall_mem_cons, stands]
      simp

theorem serve_eq (g : Generator) (r : Request) : g.serve r = (g.generateEach r.names).1 := by
  cases r with
  | batch => rfl
  | single name =>
    change (g.generate name).1 = (g.generateEach [name]).1
    unfold generateEach
    cases g.generate name with
    | mk after outcome => cases outcome <;> rfl

theorem Owes.serveAll (arena : t.IsArena) (spelled : t.IsSpelled) (owes : Owes t lead names g [])
    (requests : List Request) :
    Owes t lead (names ++ requests.flatMap (Request.answered t)) (g.serveAll requests) [] ∧
      g.Grown (g.serveAll requests) := by
  induction requests generalizing g names with
  | nil => simpa [Generator.serveAll] using ⟨owes, Grown.refl g⟩
  | cons r rest ih =>
    obtain ⟨settled, grown, _⟩ := owes.generateEach arena spelled r.names
    rw [← serve_eq] at settled grown
    obtain ⟨later, others⟩ := ih settled
    rw [List.append_assoc] at later
    exact ⟨later, grown.trans others⟩

theorem owes_fresh (t : SymbolTable) (classification : Option Classification) (lead : String) :
    Owes t lead [] ⟨t, classification, .text lead, []⟩ [] := by
  refine ⟨⟨t.diagnostics, rfl⟩, rfl, .nil, ?_, ?_, ?_, ?_⟩ <;> simp [Assoc.has]

/-! ## What is kept and how it is listed -/

theorem interfaceOrder_eq_filter (arena : t.IsArena)
    (table : ∃ ds, g.table = { t with diagnostics := ds }) (distinct : g.memo.keys.Nodup)
    (declared : ∀ name ∈ g.memo.keys, name ∈ t.names)
    (classified : ∀ c, g.classification = some c → t.classify.2 = .ok c) :
    g.interfaceOrder = (t.listing g.classification).filter fun name => g.memo.has name := by
  have same : (fun name => g.memo.keys.contains name) = fun name => g.memo.has name := by
    funext name
    rw [Bool.eq_iff_iff, List.contains_iff_mem, Assoc.mem_keys]
  unfold interfaceOrder SymbolTable.listing
  cases given : g.classification with
  | some c =>
    have perm := SymbolTable.perm_order_of_classify arena (classified c given)
    rw [← same]
    exact Classification.sort_eq_filter (perm.nodup_iff.mpr arena.nodup_names) distinct
      fun name member => perm.mem_iff.mpr (declared name member)
  | none =>
    obtain ⟨ds, table⟩ := table
    rw [table, ← same]
    exact arena.sort_eq_filter distinct declared

theorem Owes.interfaceOrder_eq (arena : t.IsArena) (spelled : t.IsSpelled)
    (owes : Owes t lead names g [])
    (classified : ∀ c, g.classification = some c → t.classify.2 = .ok c) :
    g.interfaceOrder = (t.listing g.classification).filter fun name => g.memo.has name := by
  refine interfaceOrder_eq_filter arena owes.table owes.distinct ?_ classified
  intro name member
  obtain ⟨d, declared, rfl, _⟩ :=
    (owes.has_iff_needed.mp (Assoc.mem_keys.mp member)).isFullInterface arena spelled
  exact SymbolTable.mem_names declared

theorem perm_interfaceOrder (g : Generator) : g.interfaceOrder.Perm g.memo.keys := by
  unfold interfaceOrder
  cases g.classification with
  | some c => exact c.perm_sort g.memo.keys
  | none => exact List.mergeSort_perm _ _

theorem map_stubs (g : Generator) : g.stubs.map some = g.interfaceOrder.map g.memo.get? := by
  have known : ∀ name ∈ g.interfaceOrder, g.memo.has name = true := by
    intro name member
    exact Assoc.mem_keys.mp (g.perm_interfaceOrder.mem_iff.mp member)
  unfold stubs
  generalize g.interfaceOrder = order at known
  induction order with
  | nil => rfl
  | cons name rest ih =>
    obtain ⟨first, others⟩ := List.forall_mem_cons.mp known
    obtain ⟨stub, found⟩ := Option.isSome_iff_exists.mp first
    rw [List.filterMap_cons_some found, List.map_cons, List.map_cons, found, ih others]

theorem mem_stubs {s : Stub} : s ∈ g.stubs ↔ ∃ name, g.memo.get? name = some s := by
  rw [stubs, List.mem_filterMap]
  refine exists_congr fun name => ⟨And.right, fun known => ⟨?_, known⟩⟩
  rw [g.perm_interfaceOrder.mem_iff, Assoc.mem_keys, Assoc.has, known]
  rfl

theorem map_interface_stubs
    (named : ∀ name s, g.memo.get? name = some s → s.interface = name) :
    g.stubs.map (·.interface) = g.interfaceOrder := by
  have kept : ∀ name ∈ g.interfaceOrder, (g.memo.get? name).map (·.interface) = some name := by
    intro name member
    have known := Assoc.mem_keys.mp (g.perm_interfaceOrder.mem_iff.mp member)
    obtain ⟨s, found⟩ := Option.isSome_iff_exists.mp known
    rw [found, Option.map_some, named name s found]
  have listed := congrArg (List.map (Option.map (·.interface))) g.map_stubs
  rw [List.map_map, List.map_map] at listed
  have same : (g.stubs.map (·.interface)).map some = g.interfaceOrder.map some := by
    rw [List.map_map]
    exact listed.trans (List.map_congr_left kept)
  exact List.map_injective_iff.mpr (Option.some_injective _) same

theorem Owes.keeps (arena : t.IsArena) (spelled : t.IsSpelled) (owes : Owes t lead names g [])
    (classified : ∀ c, g.classification = some c → t.classify.2 = .ok c) :
    Keeps t (.text lead) names g :=
  { distinct := owes.distinct
    keys := fun _ => Assoc.mem_keys.trans owes.has_iff_needed
    entries := owes.entries
    listed := g.perm_interfaceOrder
    ordered := owes.interfaceOrder_eq arena spelled classified
    stubs := g.map_stubs }

theorem Owes.generate_cases (arena : t.IsArena) (spelled : t.IsSpelled)
    (owes : Owes t lead names g []) (name : String) :
    (∃ why, t.interface name = .error why ∧ g.generate name = (g, .error (.interface why))) ∨
      ∃ d after stub, t.interface name = .ok d ∧ g.generate name = (after, .ok stub) ∧
        t.buildStub (.text lead) d = .ok stub ∧ ReflTransGen Turn (g, [d.name]) (after, []) := by
  cases stands : t.interface name with
  | error why => exact .inl ⟨why, rfl, owes.generate_error stands⟩
  | ok d =>
    obtain ⟨after, stub, generated, built, run, _⟩ := owes.generate_ok arena spelled stands
    exact .inr ⟨d, after, stub, rfl, generated, built, run⟩

theorem Owes.serves (arena : t.IsArena) (spelled : t.IsSpelled) (owes : Owes t lead names g []) :
    Serves t (.text lead) g := by
  refine ⟨Turn.terminates (owes.isArena arena), ?refuses, ?unchanged, ?answers,
    fun more => (owes.generateEach arena spelled more).2.2,
    fun requests => (owes.serveAll arena spelled requests).2.kept⟩
  case refuses =>
    intro name fault
    simp only [← SymbolTable.interface_eq_error]
    rcases owes.generate_cases arena spelled name with ⟨why, refused, generated⟩ |
      ⟨d, after, stub, stands, generated, _⟩
    · rw [generated, refused]
      constructor
      · rintro ⟨⟩
        exact ⟨why, rfl, rfl⟩
      · rintro ⟨_, rfl, ⟨⟩⟩
        rfl
    · rw [generated, stands]
      constructor
      · rintro ⟨⟩
      · rintro ⟨_, _, ⟨⟩⟩
  case unchanged =>
    intro name fault failed
    rcases owes.generate_cases arena spelled name with ⟨why, _, generated⟩ |
      ⟨d, after, stub, _, generated, _⟩
    · rw [generated]
    · rw [generated] at failed
      cases failed
  case answers =>
    intro name stub made
    rcases owes.generate_cases arena spelled name with ⟨why, _, generated⟩ |
      ⟨d, after, own, stands, generated, built, run⟩
    · rw [generated] at made
      cases made
    · rw [generated] at made ⊢
      cases made
      exact ⟨d, stands, built, run⟩

theorem Owes.get?_eq {others : List String} {other : Generator} (owes : Owes t lead names g [])
    (owesOther : Owes t lead others other []) (same : ∀ name, name ∈ others ↔ name ∈ names)
    (name : String) : other.memo.get? name = g.memo.get? name := by
  have known : other.memo.has name = true ↔ g.memo.has name = true := by
    rw [owes.has_iff_needed, owesOther.has_iff_needed]
    exact ⟨.mono fun n => (same n).mp, .mono fun n => (same n).mpr⟩
  cases first : g.memo.get? name with
  | none =>
    simpa [Assoc.has, first] using known
  | some stub =>
    obtain ⟨another, second⟩ := Option.isSome_iff_exists.mp
      (known.mpr (by simp [Assoc.has, first]))
    obtain ⟨d, found, built⟩ := owes.entries name stub first
    obtain ⟨e, foundOther, builtOther⟩ := owesOther.entries name another second
    rw [found] at foundOther
    cases foundOther
    rw [built] at builtOther
    cases builtOther
    exact second

/-- A new generator over a table of which all types in methods have texts for names serves any
requests, and keeps what they need; a name that is no text would make it slip. Two series of requests
that are answered for the same names, in any order and however often, leave the same doubles. -/
theorem serveAll_keeps (built : t.Built) (spelled : t.IsSpelled)
    {classification : Option Classification}
    (classified : ∀ c, classification = some c → t.classify.2 = .ok c) (lead : String)
    (requests : List Request) :
    let fresh : Generator := ⟨t, classification, .text lead, []⟩
    let names := requests.flatMap (Request.answered t)
    Keeps t (.text lead) names (fresh.serveAll requests) ∧
      Serves t (.text lead) (fresh.serveAll requests) ∧
        ∀ others : List Request,
          (∀ name, name ∈ others.flatMap (Request.answered t) ↔ name ∈ names) →
            (fresh.serveAll others).stubs = (fresh.serveAll requests).stubs ∧
              ∀ name, (fresh.serveAll others).memo.get? name =
                (fresh.serveAll requests).memo.get? name := by
  intro fresh names
  have arena := built.isArena
  have start := owes_fresh t classification lead
  obtain ⟨owes, grown⟩ := start.serveAll arena spelled requests
  rw [List.nil_append] at owes
  have sound : ∀ c, (fresh.serveAll requests).classification = some c → t.classify.2 = .ok c := by
    rw [grown.classification]
    exact classified
  refine ⟨owes.keeps arena spelled sound, owes.serves arena spelled, ?_⟩
  intro others same
  obtain ⟨owesOther, grownOther⟩ := start.serveAll arena spelled others
  rw [List.nil_append] at owesOther
  have entries := owes.get?_eq owesOther same
  have soundOther : ∀ c, (fresh.serveAll others).classification = some c →
      t.classify.2 = .ok c := by
    rw [grownOther.classification]
    exact classified
  -- The same names need the same interfaces, so both generators keep the same and list it alike.
  have known : (fun name => (fresh.serveAll others).memo.has name) =
      fun name => (fresh.serveAll requests).memo.has name := by
    funext name
    rw [Assoc.has, Assoc.has, entries]
  refine ⟨?_, entries⟩
  unfold stubs
  rw [owes.interfaceOrder_eq arena spelled sound, owesOther.interfaceOrder_eq arena spelled
    soundOther, grown.classification, grownOther.classification, known, funext entries]

def mutualInterfaces : List (UnitRecord String) :=
  let returning (method : String) (result : SemanticType) : Method String :=
    { name := method, parameters := [], returnType := some result, isPure := true
      isConst := false, visibility := .public }
  let declaring (name : String) (kind : DeclKind) (methods : List (Method String)) :
      Declaration String :=
    { name, kind, bases := [], methods, fields := [], isFull := true, unit := .null }
  [{ name := .null
     declarations :=
       [declaring "A" .interface [returning "b" (.reference (.named "B" false) false)],
        declaring "B" .interface [returning "a" (.pointer (.named "A" false) false)],
        declaring "C" .ordinary []]
     bodies := [], header := .null }]

/-- A class is refused also amid other requests. Once one interface has its double the other one
has it too, whichever came first. -/
theorem serveAll_keeps_mutualInterfaces :
    let t := (SymbolTable.merge mutualInterfaces).1
    let requests := [.single "C", .batch ["B", "C", "A"], .single "B"]
    let g := serveAll ⟨t, t.classify.2.toOption, .text "Stub", []⟩ requests
    g.memo.keys = ["B", "A"] ∧ g.interfaceOrder = ["A", "B"] ∧
      Keeps t (.text "Stub") ["B", "B"] g ∧ Serves t (.text "Stub") g := by
  intro t requests g
  have built : t.Built := SymbolTable.built_merge mutualInterfaces
  have spelled : t.IsSpelled := by
    unfold SymbolTable.IsSpelled
    decide +kernel
  have classified : ∀ c, t.classify.2.toOption = some c → t.classify.2 = .ok c := by
    intro c some
    cases outcome : t.classify.2 with
    | error => simp [outcome, Except.toOption] at some
    | ok other =>
      rw [outcome] at some
      exact congrArg _ (Option.some.inj some)
  obtain ⟨keeps, serves, _⟩ := serveAll_keeps built spelled classified "Stub" requests
  have names : requests.flatMap (Request.answered t) = ["B", "B"] := by decide +kernel
  rw [names] at keeps
  refine ⟨by decide +kernel, ?_, keeps, serves⟩
  exact keeps.ordered.trans (by decide +kernel)

end Generator
end Understudy
