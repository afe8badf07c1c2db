import ComponentPasses.Findings
import ComponentPasses.Main
import ComponentPasses.Proofs.Candidates.Selection
import ComponentPasses.Proofs.CommandLine.Attempt
import ComponentPasses.Proofs.CommandLine.Files
import ComponentPasses.Proofs.Conflict.Citations
import ComponentPasses.Proofs.Conflict.Positions
import ComponentPasses.Proofs.Dependence
import ComponentPasses.Proofs.Dispatch.Blocks
import ComponentPasses.Proofs.Dispatch.Isolation
import ComponentPasses.Proofs.Dispatch.Labels
import ComponentPasses.Proofs.Dispatch.Legibility
import ComponentPasses.Proofs.Hierarchy.Chain
import ComponentPasses.Proofs.Hierarchy.References
import ComponentPasses.Proofs.LoopKeys.Balance
import ComponentPasses.Proofs.LoopKeys.Saturation
import ComponentPasses.Proofs.LoopKeys.Unfolding
import ComponentPasses.Proofs.Passes
import ComponentPasses.Proofs.Settings.NameLists
import ComponentPasses.Proofs.Settings.Precedence
import ComponentPasses.Proofs.Snapshot.RoundTrip
import ComponentPasses.Proofs.Snapshot.Search
import ComponentPasses.Proofs.Source.Drafts
import ComponentPasses.Proofs.Trace.Faithful
