import Understudy.CommandLine.Execute
import Understudy.Proofs.Graph.Write
import Understudy.Proofs.Run.Stage

/-! What a run that succeeds has written: the header of its doubles, then the documents of its call
graph, and nothing else.
-/

set_option autoImplicit false

namespace Understudy

open Understudy.Cpp FileTree Stage Effect

def RunRequest.Asks (request : RunRequest) (view : View) : Prop :=
  ∃ names name, request.views.parts? = some names ∧ name ∈ names ∧ View.ofName? name = some view

theorem RunRequest.asks_iff {request : RunRequest} {names : List Value}
    (given : request.views.parts? = some names) (view : View) :
    request.Asks view ↔ (names.filterMap View.ofName?).contains view = true := by
  simp [Asks, given]

/-- Which documents a result goes with, where certain views are asked for and are to be written to
files or not. -/
structure RunResult.Comprises (r : RunResult) (asks : View → Prop) (toFiles : Prop)
    (header graphs : List (Path × String)) : Prop where
  stubbed : r.source.isSome ↔ asks .stub
  graphed : r.callGraph.isSome ↔ asks .callGraph
  nothing : ¬toFiles → header ++ graphs = []
  source : toFiles → header.map Prod.snd = r.source.toList
  named : ∀ document ∈ header, document.1.EndsWith ".hpp"
  graph : toFiles →
    match r.callGraph with
    | none => graphs = []
    | some g => ∃ format, g.Documents format graphs
  listed : r.artifacts = (header ++ graphs).map Prod.fst

structure RunResult.Delivers (r : RunResult) (request : RunRequest) (before after : FileTree)
    (header graphs : List (Path × String)) : Prop
    extends r.Comprises request.Asks (request.output ≠ .null) header graphs where
  distinct : r.artifacts.Nodup
  /-- Directories are made before the first document. -/
  written : ∃ made, SameFiles before made ∧ made.writeAll (header ++ graphs) = .ok after
  readable : ∀ document ∈ header ++ graphs,
    after.read document.1 = .ok document.2.toUTF8.toList
  elsewhere : ∀ place, (∀ path ∈ r.artifacts, after.locate path ≠ .ok place) →
    after.file? place = before.file? place

namespace Stage

variable {α β : Type}

/-- Whether a result, with the trees before and after, is as a stage that succeeds leaves it. -/
def Yields (post : FileTree → α → FileTree → Prop) (m : Stage α) : Prop :=
  ∀ ⦃start final : Workspace⦄ ⦃a : α⦄,
    m.run.run start = (.ok a, final) → post start.tree a final.tree

theorem Yields.pure {post : FileTree → α → FileTree → Prop} {a : α}
    (holds : ∀ tree, post tree a tree) : Yields post (Pure.pure a : Stage α) := by
  rintro start final _ ⟨⟩
  exact holds _

variable {mid : FileTree → α → FileTree → Prop} {post : FileTree → β → FileTree → Prop}
  {first : Stage α} {next : α → Stage β}

theorem Yields.bind (begins : Yields mid first)
    (goesOn : ∀ a before, Yields (fun between b after => mid before a between → post before b after)
      (next a)) : Yields post (first >>= next) := by
  intro start final b ran
  obtain ⟨a, between, begun, ran⟩ := run_bind_eq_ok.mp ran
  exact goesOn a start.tree ran (begins begun)

theorem Yields.then {P : α → Prop} (begins : Yields (fun _ a _ => P a) first)
    (keeps : Does keeping first) (goesOn : ∀ a, P a → Yields post (next a)) :
    Yields post (first >>= next) := by
  intro start final b ran
  obtain ⟨a, between, begun, ran⟩ := run_bind_eq_ok.mp ran
  have same : between.tree = start.tree := keeps begun
  exact same ▸ goesOn a (begins begun) ran

theorem Does.then (keeps : Does keeping first) (goesOn : ∀ a, Yields post (next a)) :
    Yields post (first >>= next) :=
  Yields.then (P := fun _ => True) (fun _ _ _ _ => trivial) keeps fun a _ => goesOn a

theorem Yields.map {f : α → β} {m : Stage α} (yields : Yields (fun before a => post before (f a)) m) :
    Yields post (f <$> m) := by
  intro start final b ran
  rw [map_eq_pure_bind] at ran
  obtain ⟨a, _, begun, ⟨⟩⟩ := run_bind_eq_ok.mp ran
  exact yields begun

theorem yields_get : Yields (fun before w after => w.tree = before ∧ after = before)
    (MonadState.get : Stage Workspace) := by
  rintro start final w ⟨⟩
  exact ⟨rfl, rfl⟩

/-! ### The stages of a run -/

theorem yields_viewsOf (asked : Value) :
    Yields (fun _ views _ => ∃ names, asked.parts? = some names ∧
      views = names.filterMap View.ofName?) (viewsOf asked) := by
  unfold viewsOf
  split
  next names given =>
    split
    · exact .pure fun _ => ⟨names, given, rfl⟩
    · split <;> rintro start final views ⟨⟩
  next => rintro start final views ⟨⟩

theorem yields_makeOutput (output : Value) :
    Yields (fun before directory after =>
      SameFiles before after ∧ (directory ≠ none ↔ output ≠ .null)) (makeOutput output) := by
  intro start final directory ran
  refine ⟨spares_makeOutput output ran, ?_⟩
  unfold makeOutput at ran
  split at ran
  next =>
    cases ran
    simp
  next given =>
    obtain ⟨_, _, _, ran⟩ := run_bind_eq_ok.mp ran
    rw [run_change (f := (·.makeDirectories _))] at ran
    split at ran <;> cases ran
    simpa using given

theorem yields_headerPath (settings : Entries) (output : Option Path) :
    Yields (fun _ file _ => (file = none ↔ output = none) ∧ ∀ path ∈ file, path.EndsWith ".hpp")
      (headerPath settings output) := by
  cases output with
  | none => exact .pure fun _ => by simp
  | some directory =>
    refine (keeps_attempt _ _).then fun base => .pure fun _ => ⟨by simp, ?_⟩
    rintro path ⟨⟩
    exact (Path.endsWith_ofString _ (by decide) (by decide)).append (by decide)

theorem yields_writeText (path : Path) (text : String) :
    Yields (fun before _ after => before.write path text = .ok after) (writeText path text) := by
  intro start final _ ran
  obtain ⟨_, _, ⟨⟩, ran⟩ := run_bind_eq_ok.mp ran
  obtain ⟨tree, _, made, ⟨⟩⟩ := run_bind_eq_ok.mp ran
  cases written : start.tree.write path text with
  | error =>
    rw [written] at made
    cases made
  | ok =>
    rw [written] at made
    cases made
    rfl

theorem yields_stubs (t : SymbolTable) (c : Classification) (interfaces : Value)
    (settings : Entries) (output : Option Path) :
    Yields (fun before made after => ∃ header : List (Path × String),
        made.2 = header.map Prod.fst ∧ header.map Prod.snd = (output.map fun _ => made.1.source).toList ∧
          (∀ document ∈ header, document.1.EndsWith ".hpp") ∧ before.writeAll header = .ok after)
      (stubs t c interfaces settings output) := by
  unfold stubs
  refine (yields_headerPath settings output).then (keeps_headerPath _ _) fun file known => ?_
  obtain ⟨sameAsOutput, isHeader⟩ := known
  generalize t.stubView _ _ _ = generated
  obtain ⟨g, result⟩ := generated
  refine (composes_keeping.warn _ _).then fun _ =>
    (composes_keeping.forM fun _ => composes_keeping.log _ _).then fun _ =>
    (keeps_attempt _ _).then fun view => (composes_keeping.log _ _).then fun _ => ?_
  cases file with
  | none =>
    obtain rfl := sameAsOutput.mp rfl
    exact .pure fun tree => ⟨[], rfl, rfl, by simp, rfl⟩
  | some file =>
    obtain ⟨directory, rfl⟩ : ∃ directory, output = some directory :=
      Option.ne_none_iff_exists'.mp fun none => nomatch sameAsOutput.mpr none
    refine (yields_writeText file view.source).bind fun _ _ =>
      (composes_keeping.log _ _).then fun _ => .pure fun tree written =>
        ⟨[(file, view.source)], rfl, rfl, by simpa using isHeader, ?_⟩
    rw [writeAll_cons, written]
    rfl

theorem holds_text {path : Path} (named : path.IsProper) : (Value.text path.text).holds = true := by
  rw [Value.holds, String.isEmpty_eq_false_iff.mpr (Path.text_ne_empty named.1)]
  rfl

theorem isProper_callGraph (directory : Path) :
    (directory.append (Path.ofString "callgraph.graphml")).IsProper := by
  have plain : (Path.ofString ("" ++ "callgraph.graphml")).EndsWith "callgraph.graphml" :=
    Path.endsWith_ofString "" (by decide) (by decide)
  rw [String.empty_append] at plain
  exact (plain.append (by decide)).isProper (by decide)

theorem yields_callGraph (t : SymbolTable) (c : Classification) (settings : Entries)
    (output : Option Path) :
    Yields (fun before made after => ∃ graphs : List (Path × String),
        made.2 = graphs.map Prod.fst ∧ (output = none → graphs = []) ∧
          (output ≠ none → ∃ format, made.1.Documents format graphs) ∧
            before.writeAll graphs = .ok after)
      (callGraph t c settings output) := by
  unfold callGraph
  refine (keeps_attempt _ _).then fun entries => (keeps_attempt _ _).then fun plain =>
    (composes_keeping.log _ _).then fun _ => (keeps_attempt _ _).then fun g =>
    (composes_keeping.log _ _).then fun _ => ?_
  refine yields_get.bind fun w before => ?_
  generalize emitted : g.emit w.tree _ _ = outcome
  obtain ⟨written, fault⟩ := outcome
  -- the tree is set to what emitting has left, after a fault as well
  have set : Yields (fun _ _ after => after = written.tree)
      (modify fun w => { w with tree := written.tree } : Stage PUnit) := by
    rintro start final _ ⟨⟩
    rfl
  refine set.bind fun _ _ => (composes_keeping.forM fun _ => composes_keeping.log _ _).then fun _ => ?_
  cases fault with
  | some fault =>
    intro start final made ran
    obtain ⟨_, _, ⟨⟩, _⟩ := run_bind_eq_ok.mp ran
  | none =>
    refine .pure fun tree => ?_
    rintro rfl ⟨rfl, rfl⟩
    have made := Graph.documents_of_emit emitted
    cases output with
    | none =>
      obtain rfl : written = ⟨w.tree, []⟩ := by simpa [Value.holds] using made
      exact ⟨[], rfl, fun _ => rfl, fun some => absurd rfl some, rfl⟩
    | some directory =>
      -- an output counts as given by its text, and this one has a name
      have given := holds_text (isProper_callGraph directory)
      rw [Option.map_some, Option.map_some, Option.getD_some, if_pos given] at made
      obtain ⟨format, documents, made, noted, wrote⟩ := made
      exact ⟨documents, noted, fun none => (nomatch none), fun _ => ⟨format, made⟩, wrote⟩

theorem yields_stubbed {choice : Prop} [Decidable choice] (t : SymbolTable) (c : Classification)
    (interfaces : Value) (settings : Entries) (output : Option Path) :
    Yields (fun before (stubbed : Option (StubView × List Path)) after =>
        (stubbed.isSome ↔ choice) ∧ ∃ header : List (Path × String),
          (stubbed.map (·.2)).getD [] = header.map Prod.fst ∧ (output = none → header = []) ∧
            (output ≠ none → header.map Prod.snd = (stubbed.map (·.1.source)).toList) ∧
              (∀ document ∈ header, document.1.EndsWith ".hpp") ∧ before.writeAll header = .ok after)
      (if choice then some <$> stubs t c interfaces settings output else pure none) := by
  split
  next asked =>
    refine Yields.map fun start final made ran => ⟨iff_of_true rfl asked, ?_⟩
    obtain ⟨header, files, sources, named, written⟩ := yields_stubs t c interfaces settings output ran
    refine ⟨header, files, ?_, ?_, named, written⟩
    · rintro rfl
      exact List.map_eq_nil_iff.mp sources
    · intro given
      obtain ⟨directory, rfl⟩ := Option.ne_none_iff_exists'.mp given
      exact sources
  next notAsked =>
    exact .pure fun tree => ⟨iff_of_false (by simp) notAsked, [], rfl, fun _ => rfl, fun _ => rfl,
      by simp, rfl⟩

theorem yields_graphed {choice : Prop} [Decidable choice] (t : SymbolTable) (c : Classification)
    (settings : Entries) (output : Option Path) :
    Yields (fun before (graphed : Option (Graph × List Path)) after =>
        (graphed.isSome ↔ choice) ∧ ∃ graphs : List (Path × String),
          (graphed.map (·.2)).getD [] = graphs.map Prod.fst ∧ (output = none → graphs = []) ∧
            (output ≠ none → match graphed.map (·.1) with
              | none => graphs = []
              | some g => ∃ format, g.Documents format graphs) ∧
              before.writeAll graphs = .ok after)
      (if choice then some <$> callGraph t c settings output else pure none) := by
  split
  next asked =>
    refine Yields.map fun start final made ran => ⟨iff_of_true rfl asked, ?_⟩
    exact yields_callGraph t c settings output ran
  next notAsked =>
    exact .pure fun tree => ⟨iff_of_false (by simp) notAsked, [], rfl, fun _ => rfl, fun _ => rfl, rfl⟩

theorem yields_run (units : List (UnitRecord Value)) (request : RunRequest) :
    Yields (fun before r after => ∃ header graphs made,
        r.Comprises request.Asks (request.output ≠ .null) header graphs ∧
          SameFiles before made ∧ made.writeAll (header ++ graphs) = .ok after)
      (run units request) := by
  unfold run
  refine (yields_viewsOf _).then (keeps_viewsOf _) fun views ⟨names, given, same⟩ =>
    (keeps_attempt _ _).then fun settings => (keeps_merge _).then fun merged =>
    (keeps_classify _).then fun (t, c) => (yields_makeOutput _).bind fun output before =>
    of_branch (P := Yields _) <|
      (yields_stubbed t c request.interfaces settings output).bind fun stubbed made =>
    of_branch (P := Yields _) <| (yields_graphed t c settings output).bind fun graphed between =>
    (composes_keeping.log _ _).then fun _ => .pure fun after => ?_
  -- what each of the three stages has left, the last one first
  rintro ⟨isGraphed, graphs, graphFiles, noGraphs, graphTexts, wroteGraphs⟩
    ⟨isStubbed, header, headerFiles, noHeader, headerTexts, named, wroteHeader⟩ ⟨spared, isOutput⟩
  subst same
  refine ⟨header, graphs, made, ?_, spared, ?_⟩
  · exact
      { stubbed := by rw [RunRequest.asks_iff given, ← isStubbed, Option.isSome_map]
        graphed := by rw [RunRequest.asks_iff given, ← isGraphed, Option.isSome_map]
        nothing := fun noFiles => by
          have noOutput : output = none :=
            Decidable.byContradiction fun some => noFiles (isOutput.mp some)
          rw [noHeader noOutput, noGraphs noOutput, List.append_nil]
        source := fun toFiles => headerTexts (isOutput.mpr toFiles)
        named := named
        graph := fun toFiles => graphTexts (isOutput.mpr toFiles)
        listed := by rw [headerFiles, graphFiles, List.map_append] }
  · rw [writeAll_append, wroteHeader]
    exact wroteGraphs

end Stage

namespace RunResult.Comprises

variable {r : RunResult} {asks : View → Prop} {toFiles : Prop} {header graphs : List (Path × String)}

theorem graphs_eq_nil_or (comprises : r.Comprises asks toFiles header graphs) :
    graphs = [] ∨ ∃ g format, Graph.Documents g format graphs := by
  by_cases written : toFiles
  · have holds := comprises.graph written
    split at holds
    next => exact .inl holds
    next g _ => exact .inr ⟨g, holds⟩
  · exact .inl (List.append_eq_nil_iff.mp (comprises.nothing written)).2

theorem header_length (comprises : r.Comprises asks toFiles header graphs) : header.length ≤ 1 := by
  by_cases written : toFiles
  · rw [← header.length_map Prod.snd, comprises.source written]
    cases r.source <;> simp
  · simp [(List.append_eq_nil_iff.mp (comprises.nothing written)).1]

theorem isProper (comprises : r.Comprises asks toFiles header graphs) :
    ∀ document ∈ header ++ graphs, document.1.IsProper := by
  intro document member
  obtain inHeader | inGraphs := List.mem_append.mp member
  · exact (comprises.named document inHeader).isProper (by decide)
  · obtain rfl | ⟨g, format, made⟩ := comprises.graphs_eq_nil_or
    · cases inGraphs
    · exact made.isProper document inGraphs

theorem apart (comprises : r.Comprises asks toFiles header graphs) :
    (header ++ graphs).Pairwise fun a b => a.1.name ≠ b.1.name := by
  -- the basename is free, so the extension has to tell a header from a graph document
  have single : header.Pairwise fun a b => a.1.name ≠ b.1.name := by
    have short := comprises.header_length
    cases header with
    | nil => exact .nil
    | cons document rest =>
      obtain rfl : rest = [] := by simpa using short
      exact List.pairwise_singleton _ _
  obtain rfl | ⟨g, format, made⟩ := comprises.graphs_eq_nil_or
  · simpa using single
  · exact List.pairwise_append.mpr ⟨single, made.distinct, fun document member =>
      made.name_ne (comprises.named document member)⟩

theorem delivers {request : RunRequest} {before made after : FileTree}
    (comprises : r.Comprises request.Asks (request.output ≠ .null) header graphs)
    (spared : SameFiles before made) (written : made.writeAll (header ++ graphs) = .ok after) :
    r.Delivers request before after header graphs where
  toComprises := comprises
  distinct := by
    rw [comprises.listed]
    exact List.pairwise_map.mpr (comprises.apart.imp fun differ same => differ (congrArg _ same))
  written := ⟨made, spared, written⟩
  readable := read_writeAll written comprises.isProper comprises.apart
  elsewhere := by
    intro place apart
    rw [comprises.listed] at apart
    rw [file?_writeAll written fun document member => apart _ (List.mem_map_of_mem member)]
    exact spared place

end RunResult.Comprises

theorem yields_runFiles (paths : List Path) (request : RunRequest) :
    Yields (fun before r after => ∃ header graphs, r.Delivers request before after header graphs)
      (runFiles paths request) := by
  refine (keeps_attempt _ _).then fun _ => (keeps_attempt _ _).then fun _ =>
    (keeps_attempt _ _).then fun _ => (composes_keeping.mapM keeps_load).then fun units => ?_
  intro start final r ran
  obtain ⟨header, graphs, made, comprises, spared, written⟩ := yields_run units request ran
  exact ⟨header, graphs, comprises.delivers spared written⟩

namespace CommandLine

variable {tree : FileTree} {request : Request}

structure Execution.Settles (e : Execution) (request : Request) (tree : FileTree) : Prop where
  judged : e.status = .ok 1 → SameFiles tree e.tree
  done : e.status = .ok 0 → ∃ settings output r header graphs,
    RunResult.Delivers r (request.toRun settings output) tree e.tree header graphs ∧
      e.output = lines (r.artifacts.map fun path => "Wrote " ++ path.text)

theorem settles_executeWith (settings : Entries) (output : Path) :
    (executeWith tree request settings output).Settles request tree := by
  unfold executeWith
  generalize ran : (runFiles (request.units.map Path.ofString)
    (request.toRun settings output)).run.run ⟨tree, []⟩ = outcome
  obtain ⟨fault | r, w⟩ := outcome
  · have atomic := atomic_runFiles _ _ ran fault rfl
    dsimp only
    split
    next verdict given => exact ⟨fun _ => atomic (by simp [given]), nofun⟩
    next => exact ⟨nofun, nofun⟩
  · obtain ⟨header, graphs, delivers⟩ := yields_runFiles _ _ ran
    exact ⟨nofun, fun _ => ⟨settings, output, r, header, graphs, delivers, rfl⟩⟩

theorem settles_execute (request : Request) (tree : FileTree) :
    (request.execute tree).Settles request tree := by
  have unstarted {e : Execution} (failed : e.status ≠ .ok 0) (same : e.tree = tree) :
      e.Settles request tree :=
    ⟨fun _ => same ▸ .refl _, fun ended => absurd ended failed⟩
  unfold Request.execute
  dsimp only
  split
  · split <;> exact unstarted nofun rfl
  · split
    · exact unstarted nofun rfl
    · exact unstarted nofun rfl
    · exact settles_executeWith _ _

end CommandLine

/-- A run that ends with a verdict on the units or on what is asked of them has touched no file. One
that succeeds has written the documents that it lists and touched no other file: the header of the
doubles comes first and holds their source. So it is for every command line. -/
theorem runFiles_delivers_or_spares :
    (∀ (paths : List Path) (request : RunRequest) (start : Workspace),
      match (runFiles paths request).run.run start with
      | (.error fault, final) => fault.verdict? ≠ none → SameFiles start.tree final.tree
      | (.ok r, final) => ∃ header graphs, r.Delivers request start.tree final.tree header graphs) ∧
    ∀ (tree : FileTree) (words : List String),
      match CommandLine.Request.ofWords words with
      | .error _ => (CommandLine.execute tree words).tree = tree
      | .ok request => (CommandLine.execute tree words).Settles request tree := by
  refine ⟨fun paths request start => ?_, fun tree words => ?_⟩
  · generalize ran : (runFiles paths request).run.run start = outcome
    obtain ⟨fault | r, final⟩ := outcome
    · exact atomic_runFiles paths request ran fault rfl
    · exact yields_runFiles paths request ran
  · unfold CommandLine.execute
    generalize CommandLine.Request.ofWords words = asked
    obtain ⟨speaker, fault | _⟩ | request := asked
    · rfl
    · rfl
    · exact CommandLine.settles_execute request tree

def RunRequest.everything (interfaces : List Value) : RunRequest where
  views := .list [.text "stub", .text "callgraph"]
  interfaces := .list interfaces
  settings := .null
  output := .text "out"

/-- An interface that is not there is found out before the header of an earlier run is replaced. -/
theorem runFiles_delivers_or_spares_header :
    let tree := (FileTree.empty.withFile ⟨"", ["unit.json"]⟩ [0x7b, 0x7d]).withFile
      ⟨"", ["out", "stub.hpp"]⟩ [0x2f, 0x2f]
    let paths : List Path := [⟨"", ["unit.json"]⟩]
    let words := ["stub", "--out", "out", "--interface", "X", "unit.json"]
    (match (runFiles paths (.everything [.text "X"])).run.run ⟨tree, []⟩ with
      | (.error fault, final) =>
        fault.verdict? = some "'X' is not declared in any unit" ∧ SameFiles tree final.tree
      | (.ok _, _) => False) ∧
    (match (runFiles paths (.everything [])).run.run ⟨tree, []⟩ with
      | (.error _, _) => False
      | (.ok r, final) =>
        r.artifacts.map Path.text = ["out/stub.hpp", "out/callgraph.graphml"] ∧
          ∃ header graphs, r.Delivers (.everything []) tree final.tree header graphs) ∧
    (CommandLine.execute tree words).status = .ok 1 ∧
      SameFiles tree (CommandLine.execute tree words).tree := by
  intro tree paths words
  have judged : faultOf ((runFiles paths (.everything [.text "X"])).run.run ⟨tree, []⟩).1 =
      some (.generate (.interface (.undeclared "X"))) := by decide +kernel
  have listed : ((runFiles paths (.everything [])).run.run ⟨tree, []⟩).1.toOption.map
      (·.artifacts.map Path.text) = some ["out/stub.hpp", "out/callgraph.graphml"] := by
    decide +kernel
  have asked : (CommandLine.Request.ofWords words).toOption.isSome := by decide +kernel
  have ended : (CommandLine.execute tree words).status.toOption = some 1 := by decide +kernel
  refine ⟨?_, ?_, eq_ok_of_toOption ended, ?_⟩
  · have spares := runFiles_delivers_or_spares.1 paths (.everything [.text "X"]) ⟨tree, []⟩
    generalize (runFiles paths (.everything [.text "X"])).run.run ⟨tree, []⟩ = outcome
      at judged spares ⊢
    obtain ⟨fault | r, final⟩ := outcome
    · cases judged
      exact ⟨by decide, spares nofun⟩
    · cases judged
  · have delivers := runFiles_delivers_or_spares.1 paths (.everything []) ⟨tree, []⟩
    generalize (runFiles paths (.everything [])).run.run ⟨tree, []⟩ = outcome at listed delivers ⊢
    obtain ⟨fault | r, final⟩ := outcome
    · cases listed
    · exact ⟨Option.some.inj listed, delivers⟩
  · have settles := runFiles_delivers_or_spares.2 tree words
    cases request : CommandLine.Request.ofWords words with
    | error =>
      rw [request] at asked
      cases asked
    | ok request =>
      rw [request] at settles
      exact settles.judged (eq_ok_of_toOption ended)

end Understudy
