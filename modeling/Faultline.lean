import Faultline.Control.Server
import Faultline.Correlation
import Faultline.CriticalSection
import Faultline.HostValue
import Faultline.Json.Printer
import Faultline.Json.Reader
import Faultline.Proxy.Passing
import Faultline.Proxy.Server
import Faultline.Scenario.Catalog
import Faultline.Settings
import Faultline.Proofs.OneShot
import Faultline.Proofs.Listing
import Faultline.Proofs.FailingOpen
import Faultline.Proofs.Outcome
import Faultline.Proofs.Routing
import Faultline.Proofs.Atomicity
import Faultline.Proofs.Documents
import Faultline.Proofs.Arrivals
import Faultline.Proofs.RoundTrip
import Faultline.Proofs.Draining
import Faultline.Proofs.Delays
import Faultline.Proofs.Blame
import Faultline.Proofs.Isolation
import Faultline.Proofs.Undisturbed
import Faultline.Proofs.Views
import Faultline.Proofs.Ledger
import Faultline.Proofs.Telling
import Faultline.Proofs.Queries
import Faultline.Proofs.Verdicts
import Faultline.Proofs.Wildcards
import Faultline.Proofs.Grammar
import Faultline.Proofs.Acceptance
import Faultline.Proofs.Subdomains
import Faultline.Proofs.Destinations
import Faultline.Proofs.Configured
import Faultline.Proofs.Capturing
import Faultline.Proofs.Nesting
import Faultline.Proofs.Thresholds
import Faultline.Proofs.Recovering
import Faultline.Proofs.Conserving
import Faultline.Proofs.Minting
