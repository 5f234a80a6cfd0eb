import SiteEdit.Console.Run
import SiteEdit.Main
import SiteEdit.Pattern.Agreement
import SiteEdit.Proofs.Session.Effects
import SiteEdit.Proofs.Session.Ownership
import SiteEdit.Proofs.Session.Sound
import SiteEdit.Proofs.Session.Fresh
import SiteEdit.Proofs.Session.Refinement
import SiteEdit.Proofs.Limit.Effects
import SiteEdit.Proofs.Limit.Quota
import SiteEdit.Proofs.Engine.Run
import SiteEdit.Proofs.Engine.Atomicity
import SiteEdit.Proofs.Limit.Bans
import SiteEdit.Proofs.Limit.Sweeping
import SiteEdit.Proofs.Engine.Clients
import SiteEdit.Proofs.Pattern.Spans
import SiteEdit.Proofs.Pattern.Traits
import SiteEdit.Proofs.Pattern.Rewriting
import SiteEdit.Proofs.Policy.Redaction
import SiteEdit.Proofs.Policy.Builtin
import SiteEdit.Proofs.Session.Expiry
import SiteEdit.Proofs.Engine.Outcome
import SiteEdit.Proofs.Audit.Window
import SiteEdit.Proofs.Engine.Screening
import SiteEdit.Proofs.Engine.Revalidation
import SiteEdit.Proofs.Engine.Trail
import SiteEdit.Proofs.Limit.Isolation
import SiteEdit.Proofs.Session.Sweeping
import SiteEdit.Proofs.Session.Replay
import SiteEdit.Proofs.Engine.Strangers
import SiteEdit.Proofs.Document.Inverse
import SiteEdit.Proofs.Engine.Discretion
import SiteEdit.Proofs.Engine.Counters
import SiteEdit.Proofs.Session.Balance
import SiteEdit.Proofs.Limit.Balance
import SiteEdit.Proofs.Engine.Balance
import SiteEdit.Proofs.Session.Silence
import SiteEdit.Proofs.Policy.Keywords
import SiteEdit.Proofs.Session.Identifiers
import SiteEdit.Proofs.Engine.Depth
import SiteEdit.Proofs.Policy.Verdicts
import SiteEdit.Proofs.Policy.Adjustments
import SiteEdit.Proofs.Policy.Pieces
import SiteEdit.Proofs.Limit.Escalation
import SiteEdit.Proofs.Limit.Retry
import SiteEdit.Proofs.Request.Values
import SiteEdit.Proofs.Request.Casing
import SiteEdit.Proofs.Session.Undoing
import SiteEdit.Proofs.Session.Errors
import SiteEdit.Proofs.Session.Endings
import SiteEdit.Proofs.Limit.Budget
import SiteEdit.Proofs.Engine.Remaining
import SiteEdit.Proofs.Limit.Eviction
import SiteEdit.Proofs.Limit.Keys
import SiteEdit.Proofs.Limit.Enforcement
import SiteEdit.Proofs.Session.Overdue
import SiteEdit.Proofs.Engine.Bans
import SiteEdit.Proofs.Engine.Sweeping
import SiteEdit.Proofs.Toml.Tables
import SiteEdit.Proofs.Settings.Parts
import SiteEdit.Proofs.Settings.RoundTrip
import SiteEdit.Proofs.Request.OffsetTable
import SiteEdit.Proofs.Session.Times
import SiteEdit.Proofs.Limit.Times
import SiteEdit.Proofs.Engine.Times
