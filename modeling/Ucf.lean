import Ucf.Library.Check
import Ucf.Library.Dict
import Ucf.Library.Json
import Ucf.Library.Schema
import Ucf.Scalars
import Ucf.Digests
import Ucf.Errors
import Ucf.Ir.Models
import Ucf.Ir.Values
import Ucf.Ir.Entities
import Ucf.Library.JsonText
import Ucf.Ir.Codec
import Ucf.Ir.TrustCodec
import Ucf.Inventory.Scalars
import Ucf.Inventory.Models
import Ucf.Inventory.Validation
import Ucf.Onboarding.Models
import Ucf.Onboarding.Proposals
import Ucf.Onboarding.Validation
import Ucf.Onboarding.Bundle
import Ucf.Ratchet.Keys
import Ucf.Ratchet.V1.Models
import Ucf.Ratchet.V2.Models
import Ucf.Ratchet.V2.Identity
import Ucf.Ratchet.V2.Projection
import Ucf.Ratchet.V2.Validation
import Ucf.Ratchet.V2.Evaluation
import Ucf.Ratchet.V2.Baseline
import Ucf.Ratchet.V1.Projection
import Ucf.Ratchet.V1.Validation
import Ucf.Ratchet.V1.Baseline
import Ucf.Library.Ledger
import Ucf.Ratchet.V2.Codec
import Ucf.Ratchet.Violations
import Ucf.Ratchet.V2.WellFormed
import Ucf.Ratchet.V2.Behavior
import Ucf.Ratchet.V2.Debts
import Ucf.Ratchet.V2.Evaluated
import Ucf.Ratchet.V2.Qualifying
import Ucf.Ratchet.V2.Successor
import Ucf.Ratchet.V2.Runs
import Ucf.Ratchet.V2.Conservation
import Ucf.Ratchet.V2.Progress
import Ucf.Library.JsonRoundTrip
import Ucf.Ir.Canonical
import Ucf.Ir.WellFormed
import Ucf.Ir.Equivalence
import Ucf.Ir.RoundTrip
import Ucf.Ir.TrustCanonical
import Ucf.Library.Fold
import Ucf.Library.Outcome
import Ucf.Onboarding.Materialized
import Ucf.Adapter.Codec
import Ucf.Adapter.Dispatcher
import Ucf.Adapter.LastSlot
import Ucf.Adapter.RoundTrip
import Ucf.Adapter.Streams
import Ucf.Inventory.Pages
import Ucf.Inventory.Paging
import Ucf.Change.Exchange
import Ucf.Change.Imported
import Ucf.Change.Delta
import Ucf.Change.DeltaApplied
import Ucf.Change.TaskPlan
import Ucf.Change.Archive
import Ucf.Change.Archived
import Ucf.Adapter.Writers
import Ucf.Go.ExactlyOnce
import Ucf.Library.OrderedUnion
import Ucf.Library.Reach
import Ucf.RuntimeEvidence.Exact
import Ucf.Spec.Composition
import Ucf.Spec.Extends
import Ucf.Spec.Graph
import Ucf.Adapter.StrictJson
import Ucf.Change.Completion
import Ucf.Governance.Breaks
import Ucf.Governance.Classified
import Ucf.Governance.Findings
import Ucf.Library.Correspond
import Ucf.Library.Lookup
import Ucf.Onboarding.Accepted
import Ucf.Onboarding.Dataflow
import Ucf.Ratchet.V1.Closed
import Ucf.Ratchet.V1.Contents
import Ucf.Ratchet.V1.Fingerprints
import Ucf.Ratchet.V1.Renamed
import Ucf.Spec.Completeness
import Ucf.Spec.Drift
import Ucf.Governance.ImpactWitnesses
import Ucf.Generator.Directories
import Ucf.Generator.Failure
import Ucf.Generator.Intact
import Ucf.Generator.Regenerated
import Ucf.Library.Peeling
import Ucf.Spec.Conflicts
import Ucf.Spec.ErrorCoverage
import Ucf.Spec.Ordering
import Ucf.Change.TaskCycles
import Ucf.Generation.RoundTrip
import Ucf.Generator.Orchestrator
import Ucf.Governance.Versions
import Ucf.Inventory.Revision
import Ucf.Loader.Contained
import Ucf.Spec.StateGraph
import Ucf.Ratchet.Agreement
import Ucf.Ratchet.Tombstones
import Ucf.Spec.StepReferences
