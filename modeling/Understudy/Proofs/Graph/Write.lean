import Understudy.CallGraph.View
import Understudy.Proofs.Files.Tree

/-! The documents that writing a graph leaves: one for each format that is asked for, with the
extension of that format.
-/

set_option autoImplicit false

namespace Understudy.Graph

open Understudy.Settings

def IsMarkup (g : Graph) (document : Path × String) : Prop :=
  document.1.EndsWith ".graphml" ∧ g.toMarkup = .ok document.2

def IsNodeLink (g : Graph) (document : Path × String) : Prop :=
  document.1.EndsWith ".json" ∧ document.2 = g.toNodeLinkText

inductive Documents (g : Graph) : GraphFormat → List (Path × String) → Prop where
  | graphml {d : Path × String} : g.IsMarkup d → Documents g .graphml [d]
  | json {d : Path × String} : g.IsNodeLink d → Documents g .json [d]
  | all {d e : Path × String} : g.IsMarkup d → g.IsNodeLink e → Documents g .all [d, e]

/-- Whether documents were written between two states, one after the other, and noted. -/
def Written.Grows (before after : Written) (documents : List (Path × String)) : Prop :=
  after.names.map Path.ofString = before.names.map Path.ofString ++ documents.map Prod.fst ∧
    before.tree.writeAll documents = .ok after.tree

variable {g : Graph} {stem : String} {before after : Written} {format : GraphFormat}
  {documents : List (Path × String)}

theorem Written.Grows.append {middle : Written} {first second : List (Path × String)}
    (start : before.Grows middle first) (rest : middle.Grows after second) :
    before.Grows after (first ++ second) := by
  refine ⟨?_, ?_⟩
  · rw [rest.1, start.1, List.map_append, List.append_assoc]
  · rw [FileTree.writeAll_append, start.2]
    exact rest.2

theorem grows_of_writeText {name text : String}
    (written : writeText before name text = .ok after) :
    before.Grows after [(Path.ofString name, text)] := by
  unfold writeText at written
  split at written
  next => cases written
  next =>
    obtain ⟨tree, made, written⟩ := exists_of_bind_eq_ok written
    cases written
    refine ⟨by simp, ?_⟩
    rw [FileTree.writeAll_cons, mapError_eq_ok.mp made]
    rfl

theorem grows_of_writeMarkup (written : g.writeMarkup stem before = .ok after) :
    ∃ d, g.IsMarkup d ∧ before.Grows after [d] := by
  obtain ⟨text, made, written⟩ := exists_of_bind_eq_ok written
  have named : (Path.ofString (stem ++ ".graphml")).EndsWith ".graphml" :=
    Path.endsWith_ofString stem (by decide) (by decide)
  exact ⟨(_, text), ⟨named, mapError_eq_ok.mp made⟩, grows_of_writeText written⟩

theorem grows_of_writeNodeLink (written : g.writeNodeLink stem before = .ok after) :
    ∃ d, g.IsNodeLink d ∧ before.Grows after [d] := by
  have named : (Path.ofString (stem ++ ".json")).EndsWith ".json" :=
    Path.endsWith_ofString stem (by decide) (by decide)
  exact ⟨(_, g.toNodeLinkText), ⟨named, rfl⟩, grows_of_writeText written⟩

theorem exists_of_runWriters {writer : Written → Except WriteFault Written}
    {rest : List (Written → Except WriteFault Written)}
    (ran : runWriters before (writer :: rest) = (after, none)) :
    ∃ middle, writer before = .ok middle ∧ runWriters middle rest = (after, none) := by
  unfold runWriters at ran
  split at ran
  next => cases ran
  next middle wrote => exact ⟨middle, wrote, ran⟩

theorem documents_of_write {tree : FileTree} {output : String} {value : Value}
    (written : g.write tree output value = (after, none)) :
    ∃ format documents, GraphFormat.ofValue? value = some format ∧ g.Documents format documents ∧
      Written.Grows ⟨tree, []⟩ after documents := by
  unfold write at written
  split at written
  next => cases written
  next format known =>
    refine ⟨format, ?_⟩
    cases format with
    | graphml =>
      obtain ⟨last, wrote, rest⟩ := exists_of_runWriters written
      obtain ⟨d, isMarkup, grows⟩ := grows_of_writeMarkup wrote
      cases rest
      exact ⟨_, known, .graphml isMarkup, grows⟩
    | json =>
      obtain ⟨last, wrote, rest⟩ := exists_of_runWriters written
      obtain ⟨d, isNodeLink, grows⟩ := grows_of_writeNodeLink wrote
      cases rest
      exact ⟨_, known, .json isNodeLink, grows⟩
    | all =>
      obtain ⟨middle, wrote, written⟩ := exists_of_runWriters written
      obtain ⟨d, isMarkup, grows⟩ := grows_of_writeMarkup wrote
      obtain ⟨last, wrote, rest⟩ := exists_of_runWriters written
      obtain ⟨e, isNodeLink, more⟩ := grows_of_writeNodeLink wrote
      cases rest
      exact ⟨_, known, .all isMarkup isNodeLink, grows.append more⟩

theorem documents_of_emit {tree : FileTree} {output : Value} {settings : Entries}
    (written : g.emit tree output settings = (after, none)) :
    if output.holds then
      ∃ format documents, g.Documents format documents ∧ Written.Grows ⟨tree, []⟩ after documents
    else after = ⟨tree, []⟩ := by
  unfold emit at written
  split
  next given =>
    rw [if_pos given] at written
    obtain ⟨format, documents, _, made, grows⟩ := documents_of_write written
    exact ⟨format, documents, made, grows⟩
  next absent =>
    rw [if_neg absent] at written
    exact (Prod.mk.inj written).1.symm

theorem Documents.isProper (made : g.Documents format documents) :
    ∀ document ∈ documents, document.1.IsProper := by
  have markup {d : Path × String} (isMarkup : g.IsMarkup d) := isMarkup.1.isProper (by decide)
  have nodeLink {d : Path × String} (isNodeLink : g.IsNodeLink d) := isNodeLink.1.isProper (by decide)
  cases made with
  | graphml isMarkup => simpa using markup isMarkup
  | json isNodeLink => simpa using nodeLink isNodeLink
  | all isMarkup isNodeLink => simpa using ⟨markup isMarkup, nodeLink isNodeLink⟩

theorem Documents.distinct (made : g.Documents format documents) :
    documents.Pairwise fun a b => a.1.name ≠ b.1.name := by
  cases made with
  | graphml | json => simp
  | all isMarkup isNodeLink =>
    simpa using isMarkup.1.name_ne_name isNodeLink.1 (c := 'l') (d := 'n') (by decide) (by decide) (by decide)

theorem Documents.name_ne (made : g.Documents format documents) {path : Path}
    (isHeader : path.EndsWith ".hpp") : ∀ document ∈ documents, path.name ≠ document.1.name := by
  have markup {d : Path × String} (isMarkup : g.IsMarkup d) : path.name ≠ d.1.name :=
    isHeader.name_ne_name isMarkup.1 (c := 'p') (d := 'l') (by decide) (by decide) (by decide)
  have nodeLink {d : Path × String} (isNodeLink : g.IsNodeLink d) : path.name ≠ d.1.name :=
    isHeader.name_ne_name isNodeLink.1 (c := 'p') (d := 'n') (by decide) (by decide) (by decide)
  cases made with
  | graphml isMarkup => simpa using markup isMarkup
  | json isNodeLink => simpa using nodeLink isNodeLink
  | all isMarkup isNodeLink => simpa using ⟨markup isMarkup, nodeLink isNodeLink⟩

end Understudy.Graph
