import Understudy.Proofs.Value.Keys
import Understudy.Settings.Basic

/-! Overlaying settings by settings.

An object is overlaid key by key, so what becomes of entries is told by what becomes of the values
under each key. Main statement: entries that were overlaid hold what they were made of, and to
overlay them by it once more, or it by them, changes nothing.
-/

set_option autoImplicit false

namespace Understudy.Settings

open Value (isObject keysOnce keysOnceIn)

variable {base override settings : Entries} {key : String} {v w : Value}

/-! ## Values -/

theorem overlay_object (old new : Entries) :
    overlay (some (.object old)) (.object new) = .object (merge old new) := by
  rw [overlay]

theorem overlay_none (v : Value) : overlay none v = v := by
  unfold overlay
  rfl

theorem overlay_plain (under : Option Value) (plain : v.isObject = false) :
    overlay under v = v := by
  unfold overlay
  split
  next => cases plain
  next => rfl

theorem overlay_on_plain (plain : v.isObject = false) (w : Value) : overlay (some v) w = w := by
  unfold overlay
  split
  next same =>
    cases same
    cases plain
  next => rfl

/-! ## Entries -/

theorem merge_cons (base rest : Entries) (key : String) (v : Value) :
    merge base ((key, v) :: rest) = merge (base.set key (overlay (base.get? key) v)) rest := by
  rw [merge]

theorem get?_merge_of_none (missing : override.get? key = none) :
    (merge base override).get? key = base.get? key := by
  induction override generalizing base with
  | nil => rw [merge]
  | cons e rest ih =>
    obtain ⟨first, value⟩ := e
    have apart : first ≠ key := by
      rintro rfl
      simp [Assoc.get?] at missing
    rw [Assoc.get?_cons_ne apart] at missing
    rw [merge_cons, ih missing, Assoc.get?_set_ne _ _ (Ne.symm apart)]

theorem get?_merge_of_some (distinct : override.keys.Nodup) (found : override.get? key = some v) :
    (merge base override).get? key = some (overlay (base.get? key) v) := by
  induction override generalizing base with
  | nil => cases found
  | cons e rest ih =>
    obtain ⟨first, value⟩ := e
    obtain ⟨fresh, distinct⟩ := List.nodup_cons.mp distinct
    rw [merge_cons]
    by_cases same : first = key
    · subst same
      obtain rfl : value = v := by simpa [Assoc.get?] using found
      rw [get?_merge_of_none (Assoc.get?_eq_none.mpr fresh), Assoc.get?_set_self]
    · rw [Assoc.get?_cons_ne same] at found
      rw [ih distinct found, Assoc.get?_set_ne _ _ (Ne.symm same)]

theorem keys_merge (distinct : override.keys.Nodup) :
    (merge base override).keys = base.keys ++ override.keys.filter (!base.has ·) := by
  induction override generalizing base with
  | nil =>
    rw [merge]
    simp [Assoc.keys]
  | cons e rest ih =>
    obtain ⟨first, value⟩ := e
    obtain ⟨fresh, distinct⟩ := List.nodup_cons.mp distinct
    rw [merge_cons, ih distinct, Assoc.keys_set]
    have same : (Assoc.keys rest).filter (fun other =>
        !(base.set first (overlay (base.get? first) value)).has other) =
        (Assoc.keys rest).filter (!base.has ·) := by
      refine List.filter_congr fun other inside => ?_
      have apart : other ≠ first := fun same => fresh (same ▸ inside)
      rw [Assoc.has, Assoc.get?_set_ne _ _ apart, Assoc.has]
    have split : Assoc.keys ((first, value) :: rest) = first :: Assoc.keys rest := rfl
    rw [same, split]
    cases known : base.has first <;> simp [known]

theorem nodup_keys_merge (distinct : base.keys.Nodup) :
    (merge base override).keys.Nodup := by
  induction override generalizing base with
  | nil => rwa [merge]
  | cons e rest ih =>
    rw [merge_cons]
    exact ih (Assoc.nodup_keys_set distinct)

theorem merge_eq_left (distinct : settings.keys.Nodup) (once : override.keys.Nodup)
    (each : ∀ key v, override.get? key = some v →
      ∃ w, settings.get? key = some w ∧ overlay (some w) v = w) :
    merge settings override = settings := by
  have known : override.keys.filter (!settings.has ·) = [] := by
    rw [List.filter_eq_nil_iff]
    intro key inside
    rw [Assoc.mem_keys, Assoc.has, Option.isSome_iff_exists] at inside
    obtain ⟨v, found⟩ := inside
    obtain ⟨w, there, _⟩ := each key v found
    simp [Assoc.has, there]
  refine Assoc.ext_of_keys (nodup_keys_merge distinct) ?_ fun key => ?_
  · rw [keys_merge once, known, List.append_nil]
  · cases found : override.get? key with
    | none => exact get?_merge_of_none found
    | some v =>
      obtain ⟨w, there, same⟩ := each key v found
      rw [get?_merge_of_some once found, there, same]

theorem merge_eq_right_iff (distinct : settings.keys.Nodup) :
    merge base settings = settings ↔ base.keys <+: settings.keys ∧
      ∀ key v, settings.get? key = some v → overlay (base.get? key) v = v := by
  constructor
  · intro same
    refine ⟨⟨_, (keys_merge distinct).symm.trans (congrArg Assoc.keys same)⟩, fun key v found => ?_⟩
    have laid : (merge base settings).get? key = some (overlay (base.get? key) v) :=
      get?_merge_of_some distinct found
    rw [same, found] at laid
    exact (Option.some.inj laid).symm
  · rintro ⟨⟨more, begins⟩, each⟩
    have unique : base.keys.Nodup := (List.IsPrefix.sublist ⟨more, begins⟩).nodup distinct
    have old : base.keys.filter (!base.has ·) = [] :=
      List.filter_eq_nil_iff.mpr fun key inside => by simp [Assoc.mem_keys.mp inside]
    have new : more.filter (!base.has ·) = more := by
      rw [← begins, List.nodup_append] at distinct
      refine List.filter_eq_self.mpr fun key inside => ?_
      have missing := mt Assoc.mem_keys.mpr fun there => distinct.2.2 key there key inside rfl
      simpa using missing
    refine Assoc.ext_of_keys (nodup_keys_merge unique) ?_ fun key => ?_
    · rw [keys_merge distinct, ← begins, List.filter_append, old, new, List.nil_append]
    · cases found : settings.get? key with
      | none =>
        rw [get?_merge_of_none found, Assoc.get?_eq_none]
        exact fun there => Assoc.get?_eq_none.mp found (begins ▸ List.mem_append_left more there)
      | some v => rw [get?_merge_of_some distinct found, each key v found]

/-! ## Overlaying once more -/

theorem overlay_self (once : v.keysOnce = true) : overlay (some v) v = v := by
  induction v using Value.induction_on_object with
  | plain v plain => exact overlay_plain _ plain
  | object entries each =>
    obtain ⟨distinct, inner⟩ := Value.keysOnceIn_iff.mp once
    rw [overlay_object]
    refine congrArg _ (merge_eq_left distinct distinct fun key w found => ?_)
    exact ⟨w, found, each key w found (inner key w found)⟩

theorem overlay_cases (under : Option Value) (v : Value) :
    overlay under v = v ∨ ∃ old new, under = some (.object old) ∧ v = .object new := by
  unfold overlay
  split
  next old new => exact .inr ⟨old, new, rfl, rfl⟩
  next => exact .inl rfl

theorem overlay_absorbs (under : Option Value) (once : v.keysOnce = true)
    (below : ∀ w, under = some w → w.keysOnce = true) :
    overlay (some (overlay under v)) v = overlay under v := by
  induction v using Value.induction_on_object generalizing under with
  | plain v plain => rw [overlay_plain _ plain, overlay_plain _ plain]
  | object entries each =>
    rcases overlay_cases under (.object entries) with replaced | ⟨old, new, rfl, same⟩
    · rw [replaced, overlay_self once]
    · cases same
      obtain ⟨distinct, inner⟩ := Value.keysOnceIn_iff.mp once
      obtain ⟨unique, outer⟩ := Value.keysOnceIn_iff.mp (below _ rfl)
      rw [overlay_object, overlay_object]
      refine congrArg _ (merge_eq_left (nodup_keys_merge unique) distinct fun key w found => ?_)
      exact ⟨_, get?_merge_of_some distinct found,
        each key w found (Assoc.get? old key) (inner key w found) (outer key)⟩

theorem overlay_settles (under : Option Value) (once : v.keysOnce = true)
    (below : ∀ w, under = some w → w.keysOnce = true) :
    overlay under (overlay under v) = overlay under v := by
  induction v using Value.induction_on_object generalizing under with
  | plain v plain => rw [overlay_plain _ plain, overlay_plain _ plain]
  | object entries each =>
    rcases overlay_cases under (.object entries) with replaced | ⟨old, new, rfl, same⟩
    · rw [replaced, replaced]
    · cases same
      obtain ⟨distinct, inner⟩ := Value.keysOnceIn_iff.mp once
      obtain ⟨unique, outer⟩ := Value.keysOnceIn_iff.mp (below _ rfl)
      rw [overlay_object, overlay_object]
      refine congrArg _ ((merge_eq_right_iff (nodup_keys_merge unique)).mpr
        ⟨⟨_, (keys_merge distinct).symm⟩, fun key v found => ?_⟩)
      cases laid : entries.get? key with
      | none =>
        rw [get?_merge_of_none laid] at found
        rw [found, overlay_self (outer key v found)]
      | some w =>
        rw [get?_merge_of_some distinct laid] at found
        cases found
        exact each key w laid (Assoc.get? old key) (inner key w laid) (outer key)

theorem keysOnce_overlay (under : Option Value) (once : v.keysOnce = true)
    (below : ∀ w, under = some w → w.keysOnce = true) : (overlay under v).keysOnce = true := by
  induction v using Value.induction_on_object generalizing under with
  | plain v plain => rwa [overlay_plain _ plain]
  | object entries each =>
    rcases overlay_cases under (.object entries) with replaced | ⟨old, new, rfl, same⟩
    · rwa [replaced]
    · cases same
      obtain ⟨distinct, inner⟩ := Value.keysOnceIn_iff.mp once
      obtain ⟨unique, outer⟩ := Value.keysOnceIn_iff.mp (below _ rfl)
      rw [overlay_object]
      refine Value.keysOnceIn_iff.mpr ⟨nodup_keys_merge unique, fun key v found => ?_⟩
      cases laid : entries.get? key with
      | none =>
        rw [get?_merge_of_none laid] at found
        exact outer key v found
      | some w =>
        rw [get?_merge_of_some distinct laid] at found
        cases found
        exact each key w laid (Assoc.get? old key) (inner key w laid) (outer key)

theorem keysOnceIn_merge (once : keysOnceIn base = true) (also : keysOnceIn override = true) :
    keysOnceIn (merge base override) = true := by
  have kept := keysOnce_overlay (v := .object override) (some (.object base)) also
    fun _ same => Option.some.inj same ▸ once
  rwa [overlay_object] at kept

theorem merge_self (once : keysOnceIn base = true) : merge base base = base := by
  have same := overlay_self (v := .object base) once
  rwa [overlay_object, Value.object.injEq] at same

theorem merge_merge_left (once : keysOnceIn base = true) (also : keysOnceIn override = true) :
    merge base (merge base override) = merge base override := by
  have same := overlay_settles (v := .object override) (some (.object base)) also
    fun _ same => Option.some.inj same ▸ once
  rwa [overlay_object, overlay_object, Value.object.injEq] at same

theorem merge_merge_right (once : keysOnceIn base = true) (also : keysOnceIn override = true) :
    merge (merge base override) override = merge base override := by
  have same := overlay_absorbs (v := .object override) (some (.object base)) also
    fun _ same => Option.some.inj same ▸ once
  rwa [overlay_object, overlay_object, Value.object.injEq] at same

theorem merge_set_eq (distinct : settings.keys.Nodup) (complete : merge base settings = settings)
    (fits : overlay (base.get? key) v = v) :
    merge base (settings.set key v) = settings.set key v := by
  obtain ⟨begins, each⟩ := (merge_eq_right_iff distinct).mp complete
  refine (merge_eq_right_iff (Assoc.nodup_keys_set distinct)).mpr ⟨?_, fun other w found => ?_⟩
  · rw [Assoc.keys_set]
    split
    · exact begins
    · exact begins.trans (List.prefix_append _ _)
  · rcases Assoc.get?_set_cases found with ⟨rfl, rfl⟩ | known
    · exact fits
    · exact each other w known

/-! ## Paths -/

def valueAt? : Value → List String → Option Value
  | v, [] => some v
  | .object entries, key :: path => (Assoc.get? entries key).bind (valueAt? · path)
  | _, _ :: _ => none

/-- Whether a path comes through objects to one that lacks its next key. -/
def leavesOut : Entries → List String → Bool
  | _, [] => false
  | entries, key :: path =>
    match entries.get? key with
    | none => true
    | some (.object inner) => leavesOut inner path
    | some _ => false

theorem valueAt?_merge_of_plain {path : List String} (distinct : keysOnceIn override = true)
    (leads : valueAt? (.object override) path = some v) (plain : v.isObject = false) :
    valueAt? (.object (merge base override)) path = some v := by
  induction path generalizing base override with
  | nil =>
    cases leads
    cases plain
  | cons key path ih =>
    rw [valueAt?] at leads
    obtain ⟨w, found, leads⟩ := Option.bind_eq_some_iff.mp leads
    obtain ⟨distinct, inner⟩ := Value.keysOnceIn_iff.mp distinct
    rw [valueAt?, get?_merge_of_some distinct found, Option.bind_some]
    rcases overlay_cases (base.get? key) w with replaced | ⟨old, new, under, rfl⟩
    · rw [replaced, leads]
    · rw [under, overlay_object]
      exact ih (inner key _ found) leads

theorem valueAt?_of_leavesOut {path : List String} (lacking : leavesOut settings path = true) :
    valueAt? (.object settings) path = none := by
  induction path generalizing settings with
  | nil => cases lacking
  | cons key path ih =>
    rw [leavesOut] at lacking
    rw [valueAt?]
    split at lacking
    next missing => rw [missing, Option.bind_none]
    next inner found => rw [found, Option.bind_some, ih lacking]
    next => cases lacking

theorem valueAt?_merge_of_leavesOut {path : List String} (distinct : keysOnceIn override = true)
    (lacking : leavesOut override path = true) :
    valueAt? (.object (merge base override)) path = valueAt? (.object base) path := by
  induction path generalizing base override with
  | nil => cases lacking
  | cons key path ih =>
    rw [leavesOut] at lacking
    rw [valueAt?, valueAt?]
    split at lacking
    next missing => rw [get?_merge_of_none missing]
    next new found =>
      obtain ⟨distinct, inner⟩ := Value.keysOnceIn_iff.mp distinct
      rw [get?_merge_of_some distinct found, Option.bind_some]
      have nowhere := valueAt?_of_leavesOut lacking
      -- The path goes on only below an object, and there objects meet.
      match base.get? key with
      | some (.object old) =>
        rw [overlay_object]
        exact ih (inner key _ found) lacking
      | none => rw [overlay_none, nowhere, Option.bind_none]
      | some (.null) | some (.bool _) | some (.int _) | some (.real _) | some (.text _)
      | some (.list _) =>
        rw [overlay_on_plain rfl, nowhere]
        cases path with
        | nil => cases lacking
        | cons => rfl
    next => cases lacking

end Understudy.Settings
