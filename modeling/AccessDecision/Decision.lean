import AccessDecision.AuditTrail
import AccessDecision.Policy.Basic

/-!
# Decisions

A decision is a verdict with a message and an audit trail.  A verdict that no rule gave carries the effect that
the caller must enforce instead and the reason why none did.
-/

namespace AccessDecision

/-- Why a query fell through to the default effect. -/
inductive DefaultReason where
  /-- The requesting service has no policy set. -/
  | noPolicySet
  /-- There are policies, and no rule fired. -/
  | noMatchingRule
  /-- No service has a policy set. -/
  | emptyPolicyStore
  deriving DecidableEq, Inhabited, Repr

/-- The outcome of a query. -/
inductive Verdict where
  | permit
  | deny
  /-- No rule decided the query, and the caller enforces the default. -/
  | indeterminate (default : Effect) (reason : DefaultReason)
  deriving DecidableEq, Inhabited, Repr

/-- A verdict with its explanation. -/
structure Decision where
  verdict : Verdict
  message : String
  audit : AuditTrail
  deriving DecidableEq, Inhabited, Repr

namespace Decision

/-- The effect that the caller must enforce. -/
def effect (d : Decision) : Effect :=
  match d.verdict with
  | .permit => .permit
  | .deny => .deny
  | .indeterminate default _ => default

/-- Why the default applies, if it does. -/
def defaultReason? (d : Decision) : Option DefaultReason :=
  match d.verdict with
  | .indeterminate _ reason => some reason
  | _ => none

/-- Whether no rule decided the query. -/
def isDefault (d : Decision) : Bool := d.defaultReason?.isSome

end Decision

end AccessDecision
