import RdfReasoner.Session.Setup
import RdfReasoner.Settings.Source
import RdfReasoner.Proofs.Document
import RdfReasoner.Proofs.TextForm
import RdfReasoner.Proofs.Insertion
import RdfReasoner.Proofs.AppendOnly
import RdfReasoner.Proofs.Writer
import RdfReasoner.Proofs.Evaluation
import RdfReasoner.Proofs.Batching
import RdfReasoner.Proofs.Reachability
import RdfReasoner.Proofs.BreadthFirst
import RdfReasoner.Proofs.Meaning
import RdfReasoner.Proofs.Grounding
import RdfReasoner.Proofs.Matching
import RdfReasoner.Proofs.Merging
import RdfReasoner.Proofs.Kinds
import RdfReasoner.Proofs.Snapshots
import RdfReasoner.Proofs.Reordering
import RdfReasoner.Proofs.Rows
import RdfReasoner.Proofs.Staging
import RdfReasoner.Proofs.Memory
import RdfReasoner.Proofs.Limits
import RdfReasoner.Proofs.Execution
import RdfReasoner.Proofs.Engine
import RdfReasoner.Proofs.Expressible
import RdfReasoner.Proofs.Compilation
import RdfReasoner.Proofs.Recording
import RdfReasoner.Proofs.Fallback
import RdfReasoner.Proofs.Completeness
import RdfReasoner.Proofs.History
import RdfReasoner.Proofs.Derivation
import RdfReasoner.Proofs.Consequences
import RdfReasoner.Proofs.Currency
import RdfReasoner.Proofs.Closure
import RdfReasoner.Proofs.Direct
import RdfReasoner.Proofs.Agreement
import RdfReasoner.Proofs.Leftovers
import RdfReasoner.Proofs.Shutdown
import RdfReasoner.Proofs.Levels
import RdfReasoner.Proofs.Floors
import RdfReasoner.Proofs.LeastModel
import RdfReasoner.Proofs.Counts
import RdfReasoner.Proofs.Terms
import RdfReasoner.Proofs.Termination
import RdfReasoner.Proofs.Slices
import RdfReasoner.Proofs.Logic
import RdfReasoner.Proofs.Probing
import RdfReasoner.Proofs.Transport
