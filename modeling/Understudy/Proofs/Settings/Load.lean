import Understudy.CommandLine.Execute
import Understudy.Proofs.Settings.Merge

/-! Loading settings.

Options are applied one after the other, each to a section that has to be an object. Main statements:
settings that were loaded are complete, so that to lay them over the defaults again changes nothing;
and what goes wrong while they are loaded is told as a mistake unless a section that is asked for is
no object.
-/

set_option autoImplicit false

namespace Understudy.Settings

open Value (isObject keysOnce keysOnceIn)

variable {base settings after : Entries} {name key : String} {s : Setting} {ss : List Setting}
  {tree : FileTree}

/-! ## One option -/

theorem isObject_coerce (raw : String) : (coerce raw).isObject = false := by
  unfold coerce
  split
  next => rfl
  next => rfl
  next =>
    split
    next => rfl
    next => split <;> rfl

theorem isObject_of_parseOption {item : String} (read : parseOption item = .ok s) :
    s.value.isObject = false := by
  unfold parseOption at read
  split at read
  next => cases read
  next =>
    split at read
    next => cases read
    next =>
      split at read
      next => cases read
      next =>
        rw [← Except.ok.inj read]
        dsimp only
        rw [isObject_coerce]

theorem isObject_of_readOption {item : Value} (read : readOption item = .ok s) :
    s.value.isObject = false := by
  unfold readOption at read
  dsimp only at read
  split at read
  next => exact isObject_of_parseOption (mapError_eq_ok.mp read)
  next => cases read
  next => cases read
  next => cases read

/-- What stands under a name can be looked into: it is an object, or nothing is there. -/
def Fits (settings : Entries) (name : String) : Prop :=
  ∀ v, settings.get? name = some v → v.isObject = true

def entriesOf (settings : Entries) (name : String) : Entries :=
  match settings.get? name with
  | some (.object entries) => entries
  | _ => []

theorem entriesOf_of_none (missing : settings.get? name = none) : entriesOf settings name = [] := by
  rw [entriesOf, missing]

theorem entriesOf_of_some {entries : Entries} (found : settings.get? name = some (.object entries)) :
    entriesOf settings name = entries := by
  rw [entriesOf, found]

theorem getD_of_fits (fits : Fits settings name) :
    (settings.get? name).getD (.object []) = .object (entriesOf settings name) := by
  cases found : settings.get? name with
  | none => rw [entriesOf_of_none found, Option.getD_none]
  | some v =>
    have object := fits v found
    cases v with
    | object entries => rw [entriesOf_of_some found, Option.getD_some]
    | _ => cases object

theorem exists_plain_of_not_fits (unfit : ¬ Fits settings name) :
    ∃ v, settings.get? name = some v ∧ v.isObject = false := by
  simpa [Fits] using unfit

theorem apply_of_fits (fits : Fits settings s.group) : apply settings s =
    .ok (settings.set s.group (.object ((entriesOf settings s.group).set s.key s.value))) := by
  rw [apply, getD_of_fits fits]

theorem apply_of_not_fits (unfit : ¬ Fits settings s.group) :
    apply settings s = .error .wrongType := by
  obtain ⟨v, found, plain⟩ := exists_plain_of_not_fits unfit
  rw [apply, found, Option.getD_some]
  cases v with
  | object => cases plain
  | _ => rfl

theorem fits_of_apply (applied : apply settings s = .ok after) : Fits settings s.group := by
  by_cases fits : Fits settings s.group
  · exact fits
  · rw [apply_of_not_fits fits] at applied
    cases applied

/-! ## Completeness -/

theorem keysOnceIn_of_readFile {path : Path} {entries : Entries}
    (read : readFile tree path = .ok entries) : keysOnceIn entries = true := by
  obtain ⟨document, found, made⟩ := exists_of_bind_eq_ok read
  have once := Value.keysOnce_of_readDocument (mapError_eq_ok.mp found)
  split at made
  next =>
    cases made
    exact once
  next => cases made

structure IsComplete (settings : Entries) : Prop where
  once : keysOnceIn settings = true
  complete : merge defaults settings = settings

theorem exists_of_loadDocument {config : Value} (loaded : loadDocument tree config = .ok base) :
    ∃ override, keysOnceIn override = true ∧ base = merge defaults override := by
  unfold loadDocument at loaded
  split at loaded
  next =>
    cases loaded
    exact ⟨[], rfl, by rw [merge]⟩
  next =>
    split at loaded
    next file _ =>
      rw [map_eq_pure_bind] at loaded
      obtain ⟨entries, read, made⟩ := exists_of_bind_eq_ok loaded
      cases made
      exact ⟨entries, keysOnceIn_of_readFile read, rfl⟩
    next => cases loaded

theorem isComplete_loadDocument {config : Value} (loaded : loadDocument tree config = .ok base) :
    IsComplete base := by
  have known : keysOnceIn defaults = true := by decide +kernel
  obtain ⟨override, once, rfl⟩ := exists_of_loadDocument loaded
  exact ⟨keysOnceIn_merge known once, merge_merge_left known once⟩

theorem IsComplete.apply (complete : IsComplete settings) (plain : s.value.isObject = false)
    (applied : apply settings s = .ok after) : IsComplete after := by
  obtain ⟨distinct, inner⟩ := Value.keysOnceIn_iff.mp complete.once
  obtain ⟨⟨more, begins⟩, each⟩ := (merge_eq_right_iff distinct).mp complete.complete
  have fits := fits_of_apply applied
  have once : keysOnceIn (entriesOf settings s.group) = true := by
    unfold entriesOf
    split
    next found => exact inner _ _ found
    next => rfl
  rw [apply_of_fits fits] at applied
  cases applied
  refine ⟨Value.keysOnceIn_set _ complete.once
    (Value.keysOnceIn_set _ once (Value.keysOnce_of_isObject plain)),
    merge_set_eq distinct complete.complete ?_⟩
  rcases overlay_cases (defaults.get? s.group)
    (.object ((entriesOf settings s.group).set s.key s.value)) with replaced | ⟨old, _, under, same⟩
  · exact replaced
  · cases same
    -- A section that the defaults have is there, and complete in itself.
    have listed : s.group ∈ settings.keys := by
      rw [← begins]
      refine List.mem_append_left _ (Assoc.mem_keys.mpr ?_)
      rw [Assoc.has, under]
      rfl
    rw [Assoc.mem_keys, Assoc.has, Option.isSome_iff_exists] at listed
    obtain ⟨v, found⟩ := listed
    obtain ⟨entries, rfl⟩ : ∃ entries, v = .object entries := by
      have object := fits v found
      cases v with
      | object entries => exact ⟨entries, rfl⟩
      | _ => cases object
    have held := each s.group _ found
    rw [under, overlay_object, Value.object.injEq] at held
    rw [under, overlay_object, entriesOf_of_some found]
    exact congrArg _ (merge_set_eq (Value.keysOnceIn_iff.mp (inner _ _ found)).1 held
      (overlay_plain _ plain))

theorem IsComplete.applyOptions {items : List Value} (complete : IsComplete settings)
    (applied : items.foldlM applyOption settings = .ok after) : IsComplete after := by
  induction items generalizing settings with
  | nil =>
    cases applied
    exact complete
  | cons item rest ih =>
    obtain ⟨next, first, later⟩ := exists_of_bind_eq_ok applied
    obtain ⟨s, read, set⟩ := exists_of_bind_eq_ok first
    exact ih (complete.apply (isObject_of_readOption read) (mapError_eq_ok.mp set)) later

theorem isComplete_of_load {config options : Value}
    (loaded : load tree config options = .ok settings) : IsComplete settings := by
  obtain ⟨base, document, loaded⟩ := exists_of_bind_eq_ok loaded
  obtain ⟨items, listed, loaded⟩ := exists_of_bind_eq_ok loaded
  obtain ⟨after, applied, loaded⟩ := exists_of_bind_eq_ok loaded
  obtain ⟨format, asked, loaded⟩ := exists_of_bind_eq_ok loaded
  split at loaded
  next =>
    cases loaded
    exact (isComplete_loadDocument document).applyOptions applied
  next => cases loaded

/-- Entries that say what others do, and all that these leave out of what was there. -/
structure IsOverlaid (base override settings : Entries) : Prop where
  /-- What was overlaid holds nothing else. -/
  below : merge base settings = settings
  /-- What was laid over it is held. -/
  above : merge settings override = settings
  values : ∀ path v, valueAt? (.object override) path = some v → v.isObject = false →
    valueAt? (.object settings) path = some v
  others : ∀ path v, valueAt? (.object base) path = some v → leavesOut override path = true →
    valueAt? (.object settings) path = some v

/-- To lay entries over others is to have done so for good: neither the ones nor the others change
what comes of it. So settings that were loaded stay what they are when they are laid over the
defaults, as each run does with the settings that it is given. -/
theorem isOverlaid_merge :
    (∀ base override, keysOnceIn base = true → keysOnceIn override = true →
      IsOverlaid base override (merge base override) ∧ merge base base = base) ∧
    ∀ tree config options settings, load tree config options = .ok settings →
      merge defaults settings = settings ∧ complete (.object settings) = .ok settings := by
  constructor
  · intro base override once also
    refine ⟨⟨merge_merge_left once also, merge_merge_right once also, fun path v => ?_,
      fun path v found lacking => ?_⟩, merge_self once⟩
    · exact valueAt?_merge_of_plain also
    · rw [valueAt?_merge_of_leavesOut also lacking, found]
  · intro tree config options settings loaded
    have same := (isComplete_of_load loaded).complete
    exact ⟨same, congrArg Except.ok same⟩

/-- Sections meet texts under both keys, one way and the other. A document puts a number in place of
a section that the defaults have. -/
theorem isOverlaid_merge_conflicting :
    let base : Entries :=
      [("a", .object [("x", .int 1), ("y", .object [("z", .int 2)])]), ("b", .text "t")]
    let override : Entries :=
      [("b", .object [("c", .list [])]), ("a", .object [("y", .null), ("w", .text "")])]
    let tree := FileTree.empty.withFile ⟨"", ["c.json"]⟩
      [0x7b, 0x22, 0x73, 0x74, 0x75, 0x62, 0x22, 0x3a, 0x30, 0x7d]
    keysOnceIn base = true ∧ keysOnceIn override = true ∧
      merge base override =
        [("a", .object [("x", .int 1), ("y", .null), ("w", .text "")]),
          ("b", .object [("c", .list [])])] ∧
      IsOverlaid base override (merge base override) ∧
      ∃ settings, load tree (.text "c.json") (.list [.text "loader.workers=2"]) = .ok settings ∧
        group settings "stub" = .int 0 ∧ complete (.object settings) = .ok settings := by
  intro base override tree
  have read : ∃ settings, (load tree (.text "c.json") (.list [.text "loader.workers=2"])).toOption =
      some settings ∧ group settings "stub" = .int 0 := by
    refine ⟨[("stub", .int 0), ("callgraph", .object
      [("graph_format", .text "graphml"), ("include_types", .bool false)]),
      ("loader", .object [("workers", .int 2)])], ?_⟩
    decide +kernel
  obtain ⟨settings, loaded, numbered⟩ := read
  have loaded := eq_ok_of_toOption loaded
  exact ⟨rfl, rfl, by decide +kernel, (isOverlaid_merge.1 base override rfl rfl).1, settings, loaded,
    numbered, (isOverlaid_merge.2 tree _ _ settings loaded).2⟩

/-! ## Options -/

theorem valueAt?_pair (settings : Entries) (name key : String) :
    valueAt? (.object settings) [name, key] = (entriesOf settings name).get? key := by
  rw [valueAt?, entriesOf]
  cases settings.get? name with
  | none => rfl
  | some v =>
    cases v with
    | object entries => simp [valueAt?]
    | _ => rfl

theorem entriesOf_set_self (entries : Entries) :
    entriesOf (settings.set name (.object entries)) name = entries :=
  entriesOf_of_some (Assoc.get?_set_self settings name _)

theorem entriesOf_set_ne {other : String} (v : Value) (apart : other ≠ name) :
    entriesOf (settings.set name v) other = entriesOf settings other := by
  rw [entriesOf, Assoc.get?_set_ne _ _ apart, entriesOf]

def lastValue? (ss : List Setting) (name key : String) : Option Value :=
  (ss.reverse.find? fun s => s.group == name && s.key == key).map (·.value)

theorem lastValue?_concat (ss : List Setting) (s : Setting) (name key : String) :
    lastValue? (ss ++ [s]) name key =
      if s.group = name ∧ s.key = key then some s.value else lastValue? ss name key := by
  rw [lastValue?, List.reverse_append, List.reverse_singleton, List.singleton_append,
    List.find?_cons]
  split
  next found => rw [if_pos (by simpa using found), Option.map_some]
  next other => rw [if_neg (by simpa using other), lastValue?]

/-- Entries on which options have been set one after the other. -/
structure IsAdjusted (base : Entries) (ss : List Setting) (settings : Entries) : Prop where
  fits : ∀ s ∈ ss, Fits base s.group
  /-- The last option for a key counts, and without any what was there. -/
  values : ∀ name key, valueAt? (.object settings) [name, key] =
    (lastValue? ss name key).or (valueAt? (.object base) [name, key])
  sections : ∀ name, (∀ s ∈ ss, s.group ≠ name) → settings.get? name = base.get? name
  made : ∀ s ∈ ss, ∃ entries, settings.get? s.group = some (.object entries)

theorem isAdjusted_nil (base : Entries) : IsAdjusted base [] base :=
  ⟨by simp, fun _ _ => rfl, fun _ _ => rfl, by simp⟩

theorem IsAdjusted.fits_iff (adjusted : IsAdjusted base ss settings) (name : String) :
    Fits settings name ↔ Fits base name := by
  by_cases set : ∃ s ∈ ss, s.group = name
  · obtain ⟨s, inside, rfl⟩ := set
    obtain ⟨entries, there⟩ := adjusted.made s inside
    refine iff_of_true (fun v found => ?_) (adjusted.fits s inside)
    rw [there] at found
    cases found
    rfl
  · rw [Fits, adjusted.sections name fun s inside same => set ⟨s, inside, same⟩, Fits]

theorem IsAdjusted.apply (adjusted : IsAdjusted base ss settings)
    (applied : apply settings s = .ok after) : IsAdjusted base (ss ++ [s]) after := by
  have fits := fits_of_apply applied
  rw [apply_of_fits fits] at applied
  cases applied
  refine ⟨?_, fun name key => ?_, fun name others => ?_, ?_⟩
  · rw [List.forall_mem_append, List.forall_mem_singleton]
    exact ⟨adjusted.fits, (adjusted.fits_iff s.group).mp fits⟩
  · rw [lastValue?_concat]
    split
    next same =>
      obtain ⟨rfl, rfl⟩ := same
      rw [valueAt?_pair, entriesOf_set_self, Assoc.get?_set_self, Option.some_or]
    next other =>
      rw [← adjusted.values, valueAt?_pair, valueAt?_pair]
      by_cases here : name = s.group
      · subst here
        rw [entriesOf_set_self, Assoc.get?_set_ne _ _ fun same => other ⟨rfl, same.symm⟩]
      · rw [entriesOf_set_ne _ here]
  · rw [List.forall_mem_append, List.forall_mem_singleton] at others
    rw [Assoc.get?_set_ne _ _ (Ne.symm others.2), adjusted.sections name others.1]
  · rw [List.forall_mem_append, List.forall_mem_singleton]
    refine ⟨fun other inside => ?_, _, Assoc.get?_set_self _ _ _⟩
    by_cases here : other.group = s.group
    · rw [here]
      exact ⟨_, Assoc.get?_set_self _ _ _⟩
    · rw [Assoc.get?_set_ne _ _ here]
      exact adjusted.made other inside

/-! ## What is asked for -/

/-- The sections that are asked for: those of options up to the first one that cannot be read, and
after all options the one with the graph format. -/
def asked : List String → List String
  | [] => ["callgraph"]
  | item :: rest =>
    match parseOption item with
    | .ok s => s.group :: asked rest
    | .error _ => []

def finish (settings : Entries) (items : List Value) : Except Fault Entries := do
  let settings ← items.foldlM applyOption settings
  let format ← (formatValue settings).mapError .slip
  if (GraphFormat.ofValue? format).isSome then return settings else .error (.format format)

theorem exists_of_ofValue? {v : Value} (known : (GraphFormat.ofValue? v).isSome = true) :
    ∃ format : GraphFormat, v = .text format.keyword := by
  unfold GraphFormat.ofValue? at known
  split at known
  next => exact ⟨.graphml, rfl⟩
  next => exact ⟨.json, rfl⟩
  next => exact ⟨.all, rfl⟩
  next => cases known

theorem formatValue_of_fits (fits : Fits settings "callgraph") : formatValue settings =
    .ok ((valueAt? (.object settings) ["callgraph", "graph_format"]).getD .null) := by
  rw [formatValue, getD_of_fits fits, valueAt?_pair]

theorem formatValue_of_not_fits (unfit : ¬ Fits settings "callgraph") :
    formatValue settings = .error .noMember := by
  obtain ⟨v, found, plain⟩ := exists_plain_of_not_fits unfit
  rw [formatValue, found, Option.getD_some]
  cases v with
  | object => cases plain
  | _ => rfl

/-- Whether settings state one of the formats that there are. -/
def StatesFormat (settings : Entries) : Prop :=
  ∃ format : GraphFormat,
    valueAt? (.object settings) ["callgraph", "graph_format"] = some (.text format.keyword)

theorem finish_nil (settings : Entries) :
    finish settings [] = (formatValue settings).mapError .slip >>= fun format =>
      if (GraphFormat.ofValue? format).isSome then .ok settings else .error (.format format) := by
  rfl

theorem finish_nil_of_fits (fits : Fits settings "callgraph") :
    (finish settings [] = .ok settings ∧ StatesFormat settings) ∨
      ∃ v, finish settings [] = .error (.format v) := by
  have read : finish settings [] =
      let format := (valueAt? (.object settings) ["callgraph", "graph_format"]).getD .null
      if (GraphFormat.ofValue? format).isSome then .ok settings else .error (.format format) := by
    rw [finish_nil, formatValue_of_fits fits]
    rfl
  rw [read, StatesFormat]
  generalize valueAt? (.object settings) ["callgraph", "graph_format"] = stated
  dsimp only
  split
  next known =>
    obtain ⟨format, same⟩ := exists_of_ofValue? known
    cases stated with
    | none => cases same
    | some v => exact .inl ⟨rfl, format, congrArg some same⟩
  next => exact .inr ⟨_, rfl⟩

theorem finish_nil_of_not_fits (unfit : ¬ Fits settings "callgraph") :
    finish settings [] = .error (.slip .noMember) := by
  rw [finish_nil, formatValue_of_not_fits unfit]
  rfl

theorem finish_cons (settings : Entries) (item : String) (rest : List Value) :
    finish settings (.text item :: rest) =
      match parseOption item with
      | .error fault => .error (.option (.text item) fault)
      | .ok s =>
        match apply settings s with
        | .error slip => .error (.slip slip)
        | .ok after => finish after rest := by
  have step : finish settings (.text item :: rest) =
      applyOption settings (.text item) >>= (finish · rest) := by
    unfold finish
    rw [List.foldlM_cons, bind_assoc]
  rw [step, applyOption, readOption]
  cases parseOption item with
  | error fault => rfl
  | ok s =>
    change Except.mapError .slip (Settings.apply settings s) >>= (finish · rest) = _
    dsimp only
    cases Settings.apply settings s <;> rfl

theorem asked_of_ok {item : String} (read : parseOption item = .ok s) (rest : List String) :
    asked (item :: rest) = s.group :: asked rest := by
  rw [asked, read]

/-- Options are set until one cannot be read, one asks for a section that does not fit, or all are
set and the format is looked at. -/
theorem finish_cases (options : List String) (adjusted : IsAdjusted base ss settings) :
    (∃ more after, finish settings (options.map .text) = .ok after ∧
      options.mapM parseOption = .ok more ∧ IsAdjusted base (ss ++ more) after ∧
        StatesFormat after ∧ ∀ name ∈ asked options, Fits base name) ∨
    (∃ fault, finish settings (options.map .text) = .error fault ∧
      (∀ slip, fault ≠ .slip slip) ∧ ∀ name ∈ asked options, Fits base name) ∨
    ∃ slip, finish settings (options.map .text) = .error (.slip slip) ∧
      ∃ name ∈ asked options, ¬ Fits base name := by
  -- The options that are set already stay in `ss`, for it is `base` that the sections are asked of.
  induction options generalizing settings ss with
  | nil =>
    rw [List.map_nil]
    by_cases fits : Fits settings "callgraph"
    · have all : ∀ name ∈ asked [], Fits base name := by
        rw [asked, List.forall_mem_singleton]
        exact (adjusted.fits_iff _).mp fits
      rcases finish_nil_of_fits fits with ⟨done, states⟩ | ⟨v, refused⟩
      · exact .inl ⟨[], settings, done, rfl, by rwa [List.append_nil], states, all⟩
      · exact .inr (.inl ⟨_, refused, nofun, all⟩)
    · refine .inr (.inr ⟨_, finish_nil_of_not_fits fits, "callgraph", by simp [asked], ?_⟩)
      rwa [← adjusted.fits_iff]
  | cons item rest ih =>
    rw [List.map_cons, finish_cons]
    cases read : parseOption item with
    | error fault =>
      refine .inr (.inl ⟨_, rfl, nofun, ?_⟩)
      rw [asked, read]
      exact List.forall_mem_nil _
    | ok s =>
      rw [asked_of_ok read]
      dsimp only
      cases applied : Settings.apply settings s with
      | error slip =>
        refine .inr (.inr ⟨slip, rfl, s.group, List.mem_cons_self, ?_⟩)
        rw [← adjusted.fits_iff]
        intro fits
        rw [apply_of_fits fits] at applied
        cases applied
      | ok next =>
        have own : Fits base s.group := (adjusted.fits_iff _).mp (fits_of_apply applied)
        rcases ih (adjusted.apply applied) with
          ⟨more, after, done, all, set, states, fits⟩ | ⟨fault, refused, told, fits⟩ |
            ⟨slip, failed, name, asks, unfit⟩
        · refine .inl ⟨s :: more, after, done, ?_, ?_, states, List.forall_mem_cons.mpr ⟨own, fits⟩⟩
          · rw [List.mapM_cons, read, all]
            rfl
          · rwa [List.append_assoc] at set
        · exact .inr (.inl ⟨fault, refused, told, List.forall_mem_cons.mpr ⟨own, fits⟩⟩)
        · exact .inr (.inr ⟨slip, failed, name, List.mem_cons_of_mem _ asks, unfit⟩)

/-! ## Mistakes -/

def configOf (config : Option String) : Value := (config.map Value.text).getD .null

theorem documentFault_ne_slip (path : Path) (fault : DocumentFault) (slip : Slip) :
    documentFault path fault ≠ .slip slip := by
  unfold documentFault
  split
  next => exact nofun
  next => exact nofun
  next => exact nofun
  next => split <;> exact nofun

theorem readFile_ne_slip (path : Path) (slip : Slip) : readFile tree path ≠ .error (.slip slip) := by
  intro failed
  unfold readFile at failed
  cases read : tree.readDocument path with
  | error fault =>
    rw [read] at failed
    exact documentFault_ne_slip path fault slip (Except.error.inj failed)
  | ok document =>
    rw [read] at failed
    cases document <;> cases failed

theorem loadDocument_ne_slip (config : Option String) (slip : Slip) :
    loadDocument tree (configOf config) ≠ .error (.slip slip) := by
  intro failed
  cases config with
  | none => cases failed
  | some file =>
    change (if !(Value.text file).holds then .ok defaults
      else merge defaults <$> readFile tree (Path.ofString file)) = _ at failed
    split at failed
    next => cases failed
    next =>
      cases read : readFile tree (Path.ofString file) with
      | ok => rw [read] at failed; cases failed
      | error fault =>
        rw [read] at failed
        exact readFile_ne_slip _ slip (read.trans failed)

theorem optionsOf_texts (options : List String) :
    optionsOf (.list (options.map .text)) = .ok (options.map .text) := by
  cases options <;> rfl

theorem load_texts (config : Value) (options : List String) :
    load tree config (.list (options.map .text)) =
      loadDocument tree config >>= (finish · (options.map .text)) := by
  rw [load, optionsOf_texts]
  rfl

theorem settingsMessage_eq_ok {fault : Fault} (told : ∀ slip, fault ≠ .slip slip) :
    ∃ message, CommandLine.settingsMessage fault = .ok message := by
  cases fault with
  | slip slip => exact absurd rfl (told slip)
  | _ => exact ⟨_, rfl⟩

theorem status_of_load_eq_error {r : CommandLine.Request} {fault : Fault}
    (failed : load tree (configOf r.config) (.list (r.options.map CommandLine.optionValue)) =
      .error fault) :
    (∀ slip, fault ≠ .slip slip) ↔ (r.execute tree).status = .ok 2 := by
  have ends : (r.execute tree).status =
      (CommandLine.settingsMessage fault).bind fun _ => .ok 2 := by
    unfold CommandLine.Request.execute
    rw [configOf] at failed
    dsimp only
    rw [failed]
    dsimp only
    cases CommandLine.settingsMessage fault <;> rfl
  rw [ends]
  constructor
  · intro told
    obtain ⟨message, same⟩ := settingsMessage_eq_ok told
    rw [same]
    rfl
  · rintro same slip rfl
    cases same

structure LoadsOrTells (tree : FileTree) (config : Option String) (options : List String) :
    Prop where
  /-- Settings that are loaded state a format that there is and are the defaults, overlaid by the
  document, on which the options have been set. -/
  loads : ∀ settings, load tree (configOf config) (.list (options.map .text)) = .ok settings →
    ∃ base ss, loadDocument tree (configOf config) = .ok base ∧
      options.mapM parseOption = .ok ss ∧ IsAdjusted base ss settings ∧ StatesFormat settings
  /-- Whatever goes wrong is told as a mistake. -/
  tells : ∀ slip, load tree (configOf config) (.list (options.map .text)) ≠ .error (.slip slip)
  /-- On a command line it ends with the status of a mistake. -/
  ends : ∀ r : CommandLine.Request, r.config = config → r.options = options.map some →
    ∀ fault, load tree (configOf config) (.list (options.map .text)) = .error fault →
      (r.execute tree).status = .ok 2

theorem map_optionValue (options : List String) :
    (options.map some).map CommandLine.optionValue = options.map .text := by
  rw [List.map_map]
  rfl

theorem loadsOrTells_of_ne_slip {config : Option String} {options : List String}
    (told : ∀ slip, load tree (configOf config) (.list (options.map .text)) ≠ .error (.slip slip)) :
    LoadsOrTells tree config options := by
  refine ⟨fun settings loaded => ?_, told, ?_⟩
  · rw [load_texts] at loaded
    obtain ⟨base, read, loaded⟩ := exists_of_bind_eq_ok loaded
    rcases finish_cases options (isAdjusted_nil base) with
      ⟨ss, after, done, all, set, states, _⟩ | ⟨fault, refused, _⟩ | ⟨slip, failed, _⟩
    · rw [loaded] at done
      cases done
      exact ⟨base, ss, read, all, set, states⟩
    · rw [loaded] at refused
      cases refused
    · rw [loaded] at failed
      cases failed
  · rintro r rfl given fault failed
    have failed' := failed
    rw [← map_optionValue, ← given] at failed'
    refine (status_of_load_eq_error failed').mp fun slip same => told slip ?_
    rw [failed, same]

/-- Loading settings ends as it is to end unless a section that is asked for is no object in what is
loaded before the options. -/
theorem loadsOrTells_iff (tree : FileTree) (config : Option String) (options : List String) :
    LoadsOrTells tree config options ↔ ∀ base, loadDocument tree (configOf config) = .ok base →
      ∀ name ∈ asked options, Fits base name := by
  constructor
  · intro ends base read
    rcases finish_cases options (isAdjusted_nil base) with
      ⟨_, _, _, _, _, _, fits⟩ | ⟨_, _, _, fits⟩ | ⟨slip, failed, _⟩
    · exact fits
    · exact fits
    · refine absurd ?_ (ends.tells slip)
      rw [load_texts, read]
      exact failed
  · intro fits
    refine loadsOrTells_of_ne_slip fun slip failed => ?_
    rw [load_texts] at failed
    cases read : loadDocument tree (configOf config) with
    | error fault =>
      rw [read] at failed
      exact loadDocument_ne_slip config slip (read.trans failed)
    | ok base =>
      rw [read] at failed
      change finish base (options.map .text) = _ at failed
      rcases finish_cases options (isAdjusted_nil base) with
        ⟨_, _, done, _⟩ | ⟨_, refused, told, _⟩ | ⟨_, _, name, asks, unfit⟩
      · rw [failed] at done
        cases done
      · rw [failed] at refused
        cases refused
        exact told slip rfl
      · exact unfit (fits base read name asks)

/-- A document that states a key, and options that set it twice and make a section. -/
theorem loadsOrTells_setTwice :
    let tree := FileTree.empty.withFile ⟨"", ["c.json"]⟩
      [0x7b, 0x22, 0x73, 0x74, 0x75, 0x62, 0x22, 0x3a, 0x7b, 0x22, 0x78, 0x22, 0x3a, 0x31, 0x7d, 0x7d]
    let options := ["stub.x=2", "new.key=True", "stub.x=three"]
    LoadsOrTells tree (some "c.json") options ∧
      ∃ settings, load tree (.text "c.json") (.list (options.map .text)) = .ok settings ∧
        valueAt? (.object settings) ["stub", "x"] = some (.text "three") ∧
          valueAt? (.object settings) ["new", "key"] = some (.bool true) ∧
            valueAt? (.object settings) ["stub", "prefix"] = some (.text "Stub") := by
  intro tree options
  have read : ∃ base, (loadDocument tree (configOf (some "c.json"))).toOption = some base ∧
      ∀ name ∈ asked options, ((base.get? name).all Value.isObject) = true := by
    refine ⟨merge defaults [("stub", .object [("x", .int 1)])], ?_⟩
    decide +kernel
  obtain ⟨base, made, fits⟩ := read
  constructor
  · refine (loadsOrTells_iff tree (some "c.json") options).mpr fun other same name asks v found => ?_
    rw [eq_ok_of_toOption made] at same
    cases same
    have fit := fits name asks
    rw [found] at fit
    exact fit
  · have loaded : ∃ settings,
        (load tree (.text "c.json") (.list (options.map .text))).toOption = some settings ∧
        valueAt? (.object settings) ["stub", "x"] = some (.text "three") ∧
          valueAt? (.object settings) ["new", "key"] = some (.bool true) ∧
            valueAt? (.object settings) ["stub", "prefix"] = some (.text "Stub") := by
      refine ⟨((merge defaults [("stub", .object [("x", .text "three")])]).set "new"
        (.object [("key", .bool true)])), ?_⟩
      decide +kernel
    obtain ⟨settings, same, values⟩ := loaded
    exact ⟨settings, eq_ok_of_toOption same, values⟩

def faultOf? (tree : FileTree) (config : Option String) (options : List String) : Option Fault :=
  match load tree (configOf config) (.list (options.map .text)) with
  | .ok _ => none
  | .error fault => some fault

theorem LoadsOrTells.faultOf?_ne {config : Option String} {options : List String}
    (ends : LoadsOrTells tree config options) (slip : Slip) :
    faultOf? tree config options ≠ some (.slip slip) := by
  unfold faultOf?
  split
  next => exact nofun
  next failed =>
    rintro ⟨⟩
    exact ends.tells slip failed

/-- A document whose section for graphs is nothing, and one whose section of doubles is a number to
which an option adds a key. -/
theorem not_loadsOrTells_plainSection :
    let tree := (FileTree.empty.withFile ⟨"", ["c.json"]⟩
      [0x7b, 0x22, 0x63, 0x61, 0x6c, 0x6c, 0x67, 0x72, 0x61, 0x70, 0x68, 0x22, 0x3a, 0x6e, 0x75,
        0x6c, 0x6c, 0x7d]).withFile ⟨"", ["d.json"]⟩
      [0x7b, 0x22, 0x73, 0x74, 0x75, 0x62, 0x22, 0x3a, 0x35, 0x7d]
    ¬ LoadsOrTells tree (some "c.json") [] ∧
      ¬ LoadsOrTells tree (some "d.json") ["stub.prefix=x"] := by
  intro tree
  have first : faultOf? tree (some "c.json") [] = some (.slip .noMember) := by decide +kernel
  have second : faultOf? tree (some "d.json") ["stub.prefix=x"] = some (.slip .wrongType) := by
    decide +kernel
  exact ⟨fun ends => ends.faultOf?_ne _ first, fun ends => ends.faultOf?_ne _ second⟩

end Understudy.Settings
