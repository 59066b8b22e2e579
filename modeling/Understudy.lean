import Understudy.Double.Step
import Understudy.Main
import Understudy.Ownership.Query
import Understudy.Proofs.Graph.Path
import Understudy.Proofs.Graph.Cycle
import Understudy.Proofs.Graph.Order
import Understudy.Proofs.Ownership.Constraint
import Understudy.Proofs.Ownership.DependencyOrder
import Understudy.Proofs.Ownership.EmbeddingCycle
import Understudy.Proofs.Ownership.Sort
import Understudy.Proofs.Stub.Build
import Understudy.Proofs.Stub.Memo
import Understudy.Proofs.Stub.Overrides
import Understudy.Proofs.Symbols.Adding
import Understudy.Proofs.Symbols.Scoping
import Understudy.Proofs.Symbols.Merge
import Understudy.Proofs.Double.Journal
import Understudy.Proofs.Double.Moves
import Understudy.Proofs.Double.Counting
import Understudy.Proofs.Double.Isolation
import Understudy.Proofs.Stub.Accessors
import Understudy.Proofs.Double.Override
import Understudy.Proofs.Cpp.Reading
import Understudy.Proofs.Double.Lookup
import Understudy.Proofs.Stub.Header
import Understudy.Proofs.Symbols.Reorder
import Understudy.Proofs.Stub.Reorder
import Understudy.Proofs.Stub.Spelling
import Understudy.Proofs.Symbols.Operation
import Understudy.Proofs.Stub.Change
import Understudy.Proofs.Ownership.Reports
import Understudy.Proofs.Double.Quiet
import Understudy.Proofs.Double.Reach
import Understudy.Proofs.Double.Selecting
import Understudy.Proofs.Double.Handing
import Understudy.Proofs.Double.Reset
import Understudy.Proofs.Double.InStep
import Understudy.Proofs.Double.Renewal
import Understudy.Proofs.Stub.Naming
import Understudy.Proofs.Outcome
import Understudy.Proofs.Files.Path
import Understudy.Proofs.Files.Tree
import Understudy.Proofs.Graph.Write
import Understudy.Proofs.Run.Stage
import Understudy.Proofs.Run.Artifacts
import Understudy.Proofs.CallGraph.Calls
import Understudy.Proofs.Stub.Flattening
import Understudy.Proofs.Value.Writing
import Understudy.Proofs.Graph.Markup
import Understudy.Proofs.CallGraph.Documents
import Understudy.Proofs.Cpp.Acceptance
import Understudy.Proofs.Ownership.RelationGraph
import Understudy.Proofs.Stub.Slots
import Understudy.Proofs.Symbols.Headers
import Understudy.Proofs.Stub.Rendering
import Understudy.Proofs.Stub.ClassBody
import Understudy.Proofs.CallGraph.Overlay
import Understudy.Proofs.Settings.Load
import Understudy.Proofs.Document.Unit
import Understudy.Proofs.Text.Fragment
import Understudy.Proofs.Document.Kind
