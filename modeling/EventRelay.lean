import EventRelay.Main
import EventRelay.Proofs.Event.Building
import EventRelay.Proofs.Event.Clock
import EventRelay.Proofs.Event.Normal
import EventRelay.Proofs.Event.Spelling
import EventRelay.Proofs.Event.Verdict
import EventRelay.Proofs.Event.Wire
import EventRelay.Proofs.Json.Filling
import EventRelay.Proofs.Json.Records
import EventRelay.Proofs.Json.RoundTrip
import EventRelay.Proofs.Listener.Authority
import EventRelay.Proofs.Listener.Deletion
import EventRelay.Proofs.Listener.Environment
import EventRelay.Proofs.Listener.Failure
import EventRelay.Proofs.Listener.Installation
import EventRelay.Proofs.Listener.Publication
import EventRelay.Proofs.Listener.Routing
import EventRelay.Proofs.Listener.Secrecy
import EventRelay.Proofs.Listener.Signature
import EventRelay.Proofs.Listener.Usability
import EventRelay.Proofs.Listener.Verbatim
import EventRelay.Proofs.Provider.Absence
import EventRelay.Proofs.Provider.Conversion
import EventRelay.Proofs.Provider.Lineage
import EventRelay.Proofs.Provider.Outcome
import EventRelay.Proofs.Publish.Batch
import EventRelay.Proofs.Publish.Excerpt
import EventRelay.Proofs.Publish.OneShot
import EventRelay.Proofs.Settings.Timeout
import EventRelay.Proofs.Setup.Deadline
import EventRelay.Proofs.Setup.Redirect
import EventRelay.Proofs.Store.Agreement
import EventRelay.Proofs.Store.Alike
import EventRelay.Proofs.Store.Mappings
import EventRelay.Proofs.Store.Memory
import EventRelay.Proofs.Store.Mirror
import EventRelay.Proofs.Store.Redemption
import EventRelay.Proofs.Store.Rows
import EventRelay.Proofs.Store.Sweep
import EventRelay.Proofs.Tenant.Proper
import EventRelay.Proofs.Text.Lower
import EventRelay.Proofs.Time.Order
import EventRelay.Store.Choice
