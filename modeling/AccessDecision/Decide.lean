import AccessDecision.Decision
import AccessDecision.Walk

/-!
# Deciding a request

`decide` turns a walk over the requester's policy set into a decision with a message.  Without a policy set, or
when no rule fires, the decision falls through to a default effect.
-/

namespace AccessDecision

/-- The message of a decision that fell through because there is no policy set. -/
def noPolicyMessage (default : Effect) : String :=
  s!"No matching policy located. Falling through to default state of {default.name}"

/-- The message of a decision that fell through because no rule fired. -/
def noRuleMessage (default : Effect) (trail : AuditTrail) : String :=
  s!"No matching rule located. Falling through to default state of {default.name}. Processed policies: "
    ++ trail.policySummary

/-- The message of a permit. -/
def permitMessage (trail : AuditTrail) : String :=
  "Permit granted. Processed policies: " ++ trail.policySummary

/-- The message of a denial. It names the rule that was processed last and its policy. -/
def denyMessage (trail : AuditTrail) : String :=
  "Deny by policy " ++ trail.currentPolicy?.getD "" ++ " rule " ++ trail.currentRule?.getD ""
    ++ ". Processed rules: [" ++ String.intercalate "," trail.processedRuleIds
    ++ "]. Processed policies: " ++ trail.policySummary

/-- The decision that an outcome calls for. -/
def Outcome.toDecision (outcome : Outcome) (default : Effect) : Decision :=
  match outcome.decision with
  | none => ⟨.indeterminate default .noMatchingRule, noRuleMessage default outcome.trail, outcome.trail⟩
  | some .permit => ⟨.permit, permitMessage outcome.trail, outcome.trail⟩
  | some .deny => ⟨.deny, denyMessage outcome.trail, outcome.trail⟩

/-- A decision carries the trail of its outcome. -/
theorem Outcome.audit_toDecision (outcome : Outcome) (default : Effect) :
    (outcome.toDecision default).audit = outcome.trail := by
  unfold toDecision
  split <;> rfl

/-- A decision carries the effect that its outcome has come to, or the default. -/
theorem Outcome.verdict_toDecision (outcome : Outcome) (default : Effect) :
    (outcome.toDecision default).verdict =
      match outcome.decision with
      | none => .indeterminate default .noMatchingRule
      | some .permit => .permit
      | some .deny => .deny := by
  unfold toDecision
  split <;> simp_all

/-- Decides a request against the policy set of the requester. No policy set and an empty one are alike. -/
def decidePolicies [PatternLimit] (policies : Option (List Policy)) (request : Request) (default : Effect) :
    Decision :=
  match policies with
  | none | some [] => ⟨.indeterminate default .noPolicySet, noPolicyMessage default, .empty⟩
  | some (first :: rest) => (walk (first :: rest) request).toDecision default

theorem decidePolicies_of_ne_nil [PatternLimit] {policies : List Policy} (h : policies ≠ []) (request : Request)
    (default : Effect) :
    decidePolicies (some policies) request default = (walk policies request).toDecision default := by
  cases policies with
  | nil => exact absurd rfl h
  | cons first rest => rfl

/-- The effect that applies when no rule decides, whatever the settings say: a denial. -/
def resolveDefaultMode (_configured : Effect) : Effect := .deny

end AccessDecision
