import Understudy.Files.Tree
import Understudy.Proofs.Files.Path
import Understudy.Proofs.Outcome

/-! What the operations on a tree leave of its files.

Making a directory touches no file. Writing a document touches the one file it names, and that
file holds the document for as long as nothing is written in its place.
-/

set_option autoImplicit false

namespace Understudy.FileTree

/-- The content of the file at a place, if there is one. -/
def file? (tree : FileTree) (place : Place) : Option (List UInt8) :=
  match tree.node? place with
  | some (.file content) => some content
  | _ => none

/-- No file was created, changed or removed. -/
def SameFiles (before after : FileTree) : Prop := ∀ place, after.file? place = before.file? place

theorem SameFiles.refl (tree : FileTree) : SameFiles tree tree := fun _ => rfl

theorem SameFiles.trans {first second third : FileTree} (left : SameFiles first second)
    (right : SameFiles second third) : SameFiles first third :=
  fun place => (right place).trans (left place)

variable {tree after : FileTree} {place : Place} {node : FileNode}

theorem node?_put (free : tree.node? place ≠ some .directory) (other : Place) :
    (tree.put place node).node? other = if other = place then some node else tree.node? other := by
  unfold node? at free ⊢
  by_cases same : other = place
  · subst other
    split at free
    next => exact absurd rfl free
    next apart => simp [apart, put, List.find?_append, List.find?_eq_none.mpr]
  · have kept : (fun entry : Place × FileNode =>
        decide ((entry.1 != place) = true ∧ (entry.1 == other) = true)) = (·.1 == other) := by
      funext entry
      grind
    rw [put, List.find?_append, List.find?_filter, kept]
    simp [same, Ne.symm same]

theorem file?_put_of_ne (free : tree.node? place ≠ some .directory) {other : Place}
    (apart : other ≠ place) : (tree.put place node).file? other = tree.file? other := by
  rw [file?, node?_put free, if_neg apart, file?]

/-! ### Directories -/

theorem sameFiles_of_makeDirectory {path : Path} (made : tree.makeDirectory path = .ok after) :
    SameFiles tree after := by
  unfold makeDirectory at made
  split at made
  · cases made
    exact .refl tree
  · obtain ⟨place, _, made⟩ := exists_of_bind_eq_ok made
    split at made
    next => cases made
    next vacant =>
      cases made
      intro other
      by_cases here : other = place
      · rw [file?, node?_put (by simp [vacant]), if_pos here, file?, here, vacant]
      · exact file?_put_of_ne (by simp [vacant]) here

theorem sameFiles_of_foldlM {α : Type} {f : FileTree → α → Except FileFault FileTree} {xs : List α}
    (each : ∀ {tree a after}, f tree a = .ok after → SameFiles tree after)
    (made : xs.foldlM f tree = .ok after) : SameFiles tree after := by
  induction xs generalizing tree with
  | nil =>
    cases made
    exact .refl _
  | cons a rest ih =>
    rw [List.foldlM_cons] at made
    obtain ⟨next, first, made⟩ := exists_of_bind_eq_ok made
    exact (each first).trans (ih made)

theorem sameFiles_of_makeDirectories {path : Path} (made : tree.makeDirectories path = .ok after) :
    SameFiles tree after := by
  unfold makeDirectories at made
  split at made
  next => cases made
  next =>
    split at made
    next => cases made
    next => exact sameFiles_of_foldlM sameFiles_of_makeDirectory made

/-! ### Places -/

theorem follow_put (free : tree.node? place ≠ some .directory) {base found : Place}
    {parts : List String} (leads : tree.follow base parts = .ok found) :
    (tree.put place node).follow base parts = .ok found := by
  induction parts generalizing base with
  | nil => exact leads
  | cons part rest ih =>
    unfold follow at leads ⊢
    split at leads
    next => cases leads
    next => cases leads
    next there =>
      -- only directories are gone through, and where something is put there is none
      have apart : base ≠ place := fun same => free (same ▸ there)
      rw [node?_put free, if_neg apart, there]
      split at leads
      next => cases leads
      next short =>
        simp only [if_neg short]
        exact ih leads

theorem locate_put (free : tree.node? place ≠ some .directory) {path : Path} {found : Place}
    (leads : tree.locate path = .ok found) : (tree.put place node).locate path = .ok found := by
  unfold locate at leads ⊢
  split at leads
  next => cases leads
  next => exact follow_put free leads

theorem getLast?_of_follow {base found : Place} {parts : List String} {name : String}
    (leads : tree.follow base parts = .ok found) (last : parts.getLast? = some name)
    (proper : name ≠ "..") : found.getLast? = some name := by
  induction parts generalizing base with
  | nil => cases last
  | cons part rest ih =>
    unfold follow at leads
    split at leads
    next => cases leads
    next => cases leads
    next =>
      split at leads
      next => cases leads
      next =>
        cases rest with
        | nil =>
          -- only the last component names the place; it is no step upwards
          obtain rfl : part = name := by simpa using last
          simp only [beq_iff_eq, if_neg proper, follow, Except.ok.injEq] at leads
          rw [← leads, List.getLast?_concat]
        | cons => exact ih leads (by simpa using last)

theorem getLast?_of_locate {path : Path} {found : Place} (proper : path.IsProper)
    (leads : tree.locate path = .ok found) : found.getLast? = some path.name := by
  unfold locate at leads
  split at leads
  next => cases leads
  next =>
    refine getLast?_of_follow leads ?_ proper.2
    cases last : path.parts.getLast? with
    | none => exact absurd (by rw [Path.name, last]; rfl) proper.1
    | some name => rw [Path.name, last]; rfl

/-! ### Documents -/

theorem exists_of_write {path : Path} {text : String} (written : tree.write path text = .ok after) :
    ∃ place, tree.locate path = .ok place ∧ tree.node? place ≠ some .directory ∧
      after = tree.put place (.file text.toUTF8.toList) := by
  obtain ⟨place, found, written⟩ := exists_of_bind_eq_ok written
  split at written
  next => cases written
  next free =>
    cases written
    exact ⟨place, found, free, rfl⟩

def writeAll (tree : FileTree) (documents : List (Path × String)) : Except FileFault FileTree :=
  documents.foldlM (fun tree document => tree.write document.1 document.2) tree

theorem writeAll_append (tree : FileTree) (first second : List (Path × String)) :
    tree.writeAll (first ++ second) = tree.writeAll first >>= (·.writeAll second) :=
  List.foldlM_append

theorem writeAll_cons (tree : FileTree) (document : Path × String)
    (rest : List (Path × String)) :
    tree.writeAll (document :: rest) =
      tree.write document.1 document.2 >>= (·.writeAll rest) :=
  List.foldlM_cons

theorem locate_writeAll {documents : List (Path × String)} {path : Path} {found : Place}
    (written : tree.writeAll documents = .ok after) (leads : tree.locate path = .ok found) :
    after.locate path = .ok found := by
  induction documents generalizing tree with
  | nil =>
    cases written
    exact leads
  | cons document rest ih =>
    rw [writeAll_cons] at written
    obtain ⟨next, first, written⟩ := exists_of_bind_eq_ok written
    obtain ⟨place, _, free, rfl⟩ := exists_of_write first
    exact ih written (locate_put free leads)

theorem file?_writeAll {documents : List (Path × String)}
    (written : tree.writeAll documents = .ok after)
    (apart : ∀ document ∈ documents, after.locate document.1 ≠ .ok place) :
    after.file? place = tree.file? place := by
  induction documents generalizing tree with
  | nil =>
    cases written
    rfl
  | cons document rest ih =>
    rw [writeAll_cons] at written
    obtain ⟨next, first, written⟩ := exists_of_bind_eq_ok written
    obtain ⟨target, found, free, rfl⟩ := exists_of_write first
    have elsewhere : place ≠ target := by
      rintro rfl
      exact apart document List.mem_cons_self (locate_writeAll written (locate_put free found))
    rw [ih written fun d member => apart d (List.mem_cons_of_mem _ member),
      file?_put_of_ne free elsewhere]

theorem read_of_file? {path : Path} {content : List UInt8} (found : tree.locate path = .ok place)
    (held : tree.file? place = some content) : tree.read path = .ok content := by
  unfold file? at held
  split at held
  next there =>
    cases held
    simp only [read, found, Bind.bind, Except.bind, there]
  next => cases held

/-- Every document that was written can be read again, if each has a name of its own. -/
theorem read_writeAll {documents : List (Path × String)}
    (written : tree.writeAll documents = .ok after)
    (proper : ∀ document ∈ documents, document.1.IsProper)
    (distinct : documents.Pairwise fun a b => a.1.name ≠ b.1.name) :
    ∀ document ∈ documents, after.read document.1 = .ok document.2.toUTF8.toList := by
  induction documents generalizing tree with
  | nil => simp
  | cons document rest ih =>
    rw [writeAll_cons] at written
    obtain ⟨next, first, written⟩ := exists_of_bind_eq_ok written
    obtain ⟨later, distinct⟩ := List.pairwise_cons.mp distinct
    obtain ⟨isProper, proper⟩ := List.forall_mem_cons.mp proper
    refine List.forall_mem_cons.mpr ⟨?_, ih written proper distinct⟩
    obtain ⟨place, found, free, rfl⟩ := exists_of_write first
    have leads := locate_writeAll written (locate_put free found)
    refine read_of_file? leads ?_
    -- what is written later has another name, so it stands in another place
    have untouched : ∀ d ∈ rest, after.locate d.1 ≠ .ok place := by
      intro d member same
      have own := getLast?_of_locate isProper leads
      rw [getLast?_of_locate (proper d member) same] at own
      exact later d member (Option.some.inj own).symm
    rw [file?_writeAll written untouched, file?, node?_put free, if_pos rfl]

end Understudy.FileTree
