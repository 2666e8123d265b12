import TraceGraph.Group.Run
import TraceGraph.Log.Config
import TraceGraph.Log.Line
import TraceGraph.Main
import TraceGraph.Text.Lines
import TraceGraph.Proofs.Addressing
import TraceGraph.Proofs.BatchOrder
import TraceGraph.Proofs.Boundaries
import TraceGraph.Proofs.Bounds
import TraceGraph.Proofs.Classification
import TraceGraph.Proofs.Counting
import TraceGraph.Proofs.Course
import TraceGraph.Proofs.CreationLinks
import TraceGraph.Proofs.Feed
import TraceGraph.Proofs.Grouping
import TraceGraph.Proofs.Installation
import TraceGraph.Proofs.Lifecycle
import TraceGraph.Proofs.Lockstep
import TraceGraph.Proofs.LogFile
import TraceGraph.Proofs.Moves
import TraceGraph.Proofs.Origin
import TraceGraph.Proofs.Producers
import TraceGraph.Proofs.Safety
import TraceGraph.Proofs.Seeds
import TraceGraph.Proofs.Selection
import TraceGraph.Proofs.Stickiness
import TraceGraph.Proofs.Transparency
