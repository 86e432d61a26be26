import Clearance.Main
import Clearance.Proofs.Fraud.Limits
import Clearance.Proofs.Fraud.RateLimit
import Clearance.Proofs.Fraud.Screening
import Clearance.Proofs.Policy.Shipped
import Clearance.Proofs.App.Calls
import Clearance.Proofs.App.Independence
import Clearance.Proofs.Fraud.Product
import Clearance.Proofs.Policy.Selection
import Clearance.Wire
import Clearance.Proofs.Json.Number
import Clearance.Proofs.Json.Record
import Clearance.Proofs.Currency
import Clearance.Proofs.Wire
import Clearance.Proofs.Name
import Clearance.Proofs.Action
import Clearance.Proofs.Fraud.Sweeps
import Clearance.Proofs.Json.Grammar
import Clearance.Proofs.Policy.RoleDocument
import Clearance.Proofs.Json.Bracketed
import Clearance.Proofs.Policy.Fallback
import Clearance.Proofs.Policy.Forms
import Clearance.Proofs.Policy.Verdict
import Clearance.Proofs.Fraud.Tightening
import Clearance.Proofs.Policy.Roles
import Clearance.Proofs.Json.Forward
import Clearance.Proofs.App.Batch
import Clearance.Proofs.App.Exit
import Clearance.Proofs.App.Precedence
import Clearance.Proofs.Currency.Canonical
import Clearance.Proofs.Fraud.Window
import Clearance.Proofs.Fraud.Document
import Clearance.Proofs.Fraud.Tracked
import Clearance.Proofs.Policy.Wildcard
import Clearance.Proofs.Policy.Sources
import Clearance.Proofs.Policy.Input
