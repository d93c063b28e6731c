import AccessDecision.Form.Condition
import AccessDecision.Policy.Basic

/-!
# The written form of policies

Absent targets and conditions of a rule, and empty lists of actions, are left out in writing; an empty list of a
rule's own targets is kept, because it differs from none.
-/

namespace AccessDecision

/-- The written names of the effects. -/
def Effect.words : List (String × Effect) := [(Effect.permit.name, .permit), (Effect.deny.name, .deny)]

/-- Reads an effect. -/
def Effect.ofDatum? (dialect : Dialect) (d : Datum) : Option Effect := word? dialect Effect.words d

/-- Writes an effect. -/
def Effect.toDatum (effect : Effect) : Datum := .text effect.name

/-- A member that is written only if there is a value. -/
def member? (name : String) (value : Option Datum) : List (String × Datum) :=
  (value.map fun d => (name, d)).toList

/-- A list of texts that is written only if it has items. -/
def unlessEmpty (xs : List String) : Option Datum := if xs.isEmpty then none else some (textsDatum xs)

/-- The fields of a rule. -/
def Rule.fields : List String := ["rule_id", "targets", "actions", "effect", "condition"]

/-- Reads a rule. -/
def Rule.ofDatum? (dialect : Dialect) (d : Datum) : Option Rule := do
  let [ruleId, targets, actions, effect, condition] ← d.slots dialect Rule.fields | none
  return {
    ruleId := ← ruleId.required Datum.text?
    targets := ← targets.orElse (nullable texts?) none
    actions := ← actions.orElse texts? []
    effect := ← effect.required (Effect.ofDatum? dialect)
    condition := ← condition.orElse (nullable (Condition.ofDatum? dialect)) none }

/-- Writes a rule. -/
def Rule.toDatum (rule : Rule) : Datum :=
  .object (("rule_id", .text rule.ruleId)
    :: member? "targets" (rule.targets.map textsDatum)
    ++ member? "actions" (unlessEmpty rule.actions)
    ++ ("effect", rule.effect.toDatum)
    :: member? "condition" (rule.condition.map Condition.toDatum))

/-- The fields of a policy. -/
def Policy.fields : List String := ["policy_id", "targets", "actions", "rules"]

/-- Reads a policy. -/
def Policy.ofDatum? (dialect : Dialect) (d : Datum) : Option Policy := do
  let [policyId, targets, actions, rules] ← d.slots dialect Policy.fields | none
  return {
    policyId := ← policyId.required Datum.text?
    targets := ← targets.orElse texts? []
    actions := ← actions.orElse texts? []
    rules := ← rules.orElse (listOf (Rule.ofDatum? dialect)) [] }

/-- Writes a policy. -/
def Policy.toDatum (policy : Policy) : Datum :=
  .object (("policy_id", .text policy.policyId)
    :: ("targets", textsDatum policy.targets)
    :: member? "actions" (unlessEmpty policy.actions)
    ++ [("rules", .list (policy.rules.map Rule.toDatum))])

/-- Reads the policy sets of services. -/
def services? (dialect : Dialect) (d : Datum) : Option (List (String × List Policy)) :=
  d.members?.bind (List.mapM fun (service, policies) =>
    (listOf (Policy.ofDatum? dialect) policies).map fun ps => (service, ps))

/-- Reads a policy document. -/
def PolicyDocument.ofDatum? (dialect : Dialect) (d : Datum) : Option PolicyDocument := do
  let [services] ← d.slots dialect ["services"] | none
  return .ofList (← services.orElse (services? dialect) [])

/-- Writes a policy document. -/
def PolicyDocument.toDatum (document : PolicyDocument) : Datum :=
  .object [("services", .object (document.services.map fun (service, policies) =>
    (service, .list (policies.map Policy.toDatum))))]

end AccessDecision
