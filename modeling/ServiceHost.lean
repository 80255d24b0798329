import ServiceHost.CallerStages
import ServiceHost.Config.Summary
import ServiceHost.Config.VariableFile
import ServiceHost.Config.Variables
import ServiceHost.Exchange
import ServiceHost.Fleet.Settle
import ServiceHost.Metrics.Passes
import ServiceHost.Proofs.Address.Acceptance
import ServiceHost.Proofs.Config.Environment
import ServiceHost.Proofs.Dump.Reading
import ServiceHost.Proofs.Envelope.Runtime
import ServiceHost.Proofs.Exchange.Composition
import ServiceHost.Proofs.Fleet.Accounting
import ServiceHost.Proofs.Fleet.Isolation
import ServiceHost.Proofs.Fleet.Occupancy
import ServiceHost.Proofs.Json.Compact
import ServiceHost.Proofs.Json.Document
import ServiceHost.Proofs.Lifecycle.Attendance
import ServiceHost.Proofs.Lifecycle.Outcomes
import ServiceHost.Proofs.Lifecycle.Release
import ServiceHost.Proofs.Log.Completion
import ServiceHost.Proofs.Log.Secrecy
import ServiceHost.Proofs.Log.Verbosity
import ServiceHost.Proofs.Metrics.Conservation
import ServiceHost.Proofs.Pipeline.Containment
import ServiceHost.Proofs.Pipeline.Deadline
import ServiceHost.Proofs.Pipeline.Onion
import ServiceHost.Proofs.Redaction.Bodies
import ServiceHost.Proofs.Redaction.Completeness
import ServiceHost.Proofs.Redaction.Headers
import ServiceHost.Proofs.Routing.Listing
import ServiceHost.Proofs.Shutdown.Wakeup
import ServiceHost.Proofs.Trace.Agreement
import ServiceHost.Router
import ServiceHost.ServerError
import ServiceHost.Shutdown.Signal
import ServiceHost.TelemetryError
