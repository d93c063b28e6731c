import AccessDecision.Form.Principal
import AccessDecision.Form.Query
import AccessDecision.Main
import AccessDecision.Pattern.Memo
import AccessDecision.Proofs.Condition.Unrecognized
import AccessDecision.Proofs.Pattern.Invalid
import AccessDecision.Proofs.Service.Permit
import AccessDecision.Proofs.Pattern.Tails
import AccessDecision.Proofs.Service.Isolation
import AccessDecision.Proofs.Walk.Lockstep
import AccessDecision.Proofs.Pattern.Comments
import AccessDecision.Proofs.Pattern.Matching
import AccessDecision.Proofs.Pattern.Valid
import AccessDecision.Proofs.Datum.Json.Cutting
import AccessDecision.Proofs.Datum.Json.RoundTrip
import AccessDecision.Proofs.Form.Record
import AccessDecision.Proofs.Form.Condition
import AccessDecision.Proofs.Form.Document
import AccessDecision.Proofs.Form.Rewriting
import AccessDecision.Proofs.Condition.Truth
import AccessDecision.Proofs.Walk.Denial
import AccessDecision.Proofs.Service.Classification
import AccessDecision.Proofs.Service.Response
import AccessDecision.Proofs.Condition.Comparison
import AccessDecision.Proofs.Condition.Negation
import AccessDecision.Proofs.Condition.Growth
import AccessDecision.Proofs.Walk.Designated
import AccessDecision.Proofs.Text.Trimming
import AccessDecision.Proofs.Walk.Targets
import AccessDecision.Condition.Memo
import AccessDecision.Proofs.Pattern.Memo
import AccessDecision.Proofs.Walk.Inert
import AccessDecision.Proofs.Pattern.Plain
import AccessDecision.Proofs.Form.Canonical
import AccessDecision.Proofs.Form.Decision
import AccessDecision.Proofs.Form.Settings
import AccessDecision.Proofs.Settings.Order
import AccessDecision.Proofs.Settings.Precedence
import AccessDecision.Proofs.CommandLine.Arguments
import AccessDecision.Proofs.CommandLine.Attributes
import AccessDecision.Proofs.CommandLine.Deciding
import AccessDecision.Proofs.AuditTrail.Recording
import AccessDecision.Proofs.AuditTrail.Groups
import AccessDecision.Proofs.CommandLine.Assigned
import AccessDecision.Proofs.Form.Fields
import AccessDecision.Proofs.Form.Applied
import AccessDecision.Proofs.CommandLine.Running
import AccessDecision.Proofs.CommandLine.Checking
