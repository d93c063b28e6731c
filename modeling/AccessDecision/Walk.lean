import AccessDecision.AuditTrail
import AccessDecision.Condition.Evaluation
import AccessDecision.Policy.Basic

/-!
# Walking a policy set

`walk` visits the policies of a service in order, for one resource, action and principal.  A policy applies
through each of its targets that covers the resource.  Under such a target each rule that covers the action is
visited once for each of its own targets that covers the resource.

The first satisfied denial ends the walk, and the pair of targets under which it fired replaces all recorded
pairs; satisfied permits accumulate.
-/

namespace AccessDecision

/-- What is asked of a policy set. -/
structure Request where
  resource : String
  action : Option String
  principal : Principal

/-- What a walk has found: the effect so far, if a rule fired, and the trail. -/
structure Outcome where
  decision : Option Effect
  trail : AuditTrail
  deriving DecidableEq, Repr

variable [PatternLimit]

/-- Whether the condition of a rule is satisfied. A rule without one always is; a malformed one never is. -/
def Rule.isSatisfied (rule : Rule) (principal : Principal) : Bool :=
  match rule.condition with
  | none => true
  | some condition => condition.isSatisfied principal

/-- A walk under way: `error` holds the outcome of a walk that a denial has ended. -/
abbrev Progress := Except Outcome Outcome

namespace Walk

/-- The outcome before the first policy. -/
def start : Outcome := ⟨none, .empty⟩

/-- Visits a rule under one of its targets. -/
def visitRuleTarget (request : Request) (rule : Rule) (policyTarget : String) (outcome : Outcome)
    (ruleTarget : String) : Progress :=
  if resourceMatches request.resource ruleTarget then
    let trail := outcome.trail.recordRule rule.ruleId
    if rule.isSatisfied request.principal then
      match rule.effect with
      | .deny => .error ⟨some .deny, trail.truncateToDeny policyTarget ruleTarget⟩
      | .permit => .ok ⟨some .permit, trail.recordPermit policyTarget ruleTarget⟩
    else .ok { outcome with trail := trail }
  else .ok outcome

/-- Visits a rule of a policy under each of its targets. -/
def visitRule (request : Request) (policy : Policy) (policyTarget : String) (outcome : Outcome) (rule : Rule) :
    Progress :=
  if policy.covers rule request.action then
    (policy.targetsOf rule).foldlM (visitRuleTarget request rule policyTarget) outcome
  else .ok outcome

/-- Visits the rules of a policy under one of the policy's targets. -/
def visitPolicyTarget (request : Request) (policy : Policy) (outcome : Outcome) (policyTarget : String) :
    Progress :=
  if resourceMatches request.resource policyTarget then
    policy.rules.foldlM (visitRule request policy policyTarget) outcome
  else .ok outcome

/-- Visits a policy. -/
def visitPolicy (request : Request) (outcome : Outcome) (policy : Policy) : Progress :=
  policy.targetResources.foldlM (visitPolicyTarget request policy)
    { outcome with trail := outcome.trail.recordPolicy policy.policyId }

end Walk

/-- The outcome of a walk, whether or not a denial ended it. -/
def Progress.outcome : Progress → Outcome
  | .ok outcome | .error outcome => outcome

/-- Walks a policy set. -/
def walk (policies : List Policy) (request : Request) : Outcome :=
  Progress.outcome (policies.foldlM (Walk.visitPolicy request) Walk.start)

end AccessDecision
