import DataQuality.Catalog.Memory
import DataQuality.Catalog.Recorder
import DataQuality.Main
import DataQuality.Proofs.Catalog.Addresses
import DataQuality.Proofs.Catalog.Answers
import DataQuality.Proofs.Catalog.Invariant
import DataQuality.Proofs.Catalog.LifeCycle
import DataQuality.Proofs.Catalog.Paging
import DataQuality.Proofs.Check.Influence
import DataQuality.Proofs.Check.Ranges
import DataQuality.Proofs.EntityLink.Parsing
import DataQuality.Proofs.EntityLink.Readers
import DataQuality.Proofs.FullyQualifiedName
import DataQuality.Proofs.Json.Text
import DataQuality.Proofs.Sink.Log
import DataQuality.Proofs.Workflow.Accounting
import DataQuality.Proofs.Workflow.Closing
import DataQuality.Proofs.Workflow.Completion
import DataQuality.Proofs.Workflow.Delivery
import DataQuality.Proofs.Workflow.Derivation
import DataQuality.Proofs.Workflow.ExitCode
import DataQuality.Proofs.Workflow.Idempotence
import DataQuality.Proofs.Workflow.Isolation
import DataQuality.Proofs.Workflow.Listing
import DataQuality.Proofs.Workflow.Loading
import DataQuality.Proofs.Workflow.Pending
import DataQuality.Proofs.Workflow.Preservation
import DataQuality.Proofs.Workflow.Provision
import DataQuality.Proofs.Workflow.Records
import DataQuality.Proofs.Workflow.Resolution
import DataQuality.Proofs.Workflow.Stability
import DataQuality.Proofs.Workflow.Validity
