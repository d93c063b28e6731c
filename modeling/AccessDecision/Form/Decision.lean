import AccessDecision.Decision
import AccessDecision.Form.Policy

/-!
# The written form of decisions

The verdict of a decision is not a member of its own: its tag and its fields stand beside the message and the audit
trail.  A decision is therefore always an object, and everything in it that is neither message nor trail is read
as part of the verdict.
-/

namespace AccessDecision

/-! ### Audit trails -/

/-- Reads a pair of targets. -/
def TargetMatch.ofDatum? (dialect : Dialect) (d : Datum) : Option TargetMatch := do
  let [policyTarget, ruleTarget] ← d.slots dialect ["policy_target", "rule_target"] | none
  return ⟨← policyTarget.required Datum.text?, ← ruleTarget.required Datum.text?⟩

/-- Writes a pair of targets. -/
def TargetMatch.toDatum (m : TargetMatch) : Datum :=
  .object [("policy_target", .text m.policyTarget), ("rule_target", .text m.ruleTarget)]

/-- Reads a group of targets. -/
def GroupTarget.ofDatum? (dialect : Dialect) (d : Datum) : Option GroupTarget := do
  let [policyTarget, ruleTargets] ← d.slots dialect ["policy_target", "rule_targets"] | none
  return ⟨← policyTarget.required Datum.text?, ← ruleTargets.required texts?⟩

/-- Writes a group of targets. -/
def GroupTarget.toDatum (g : GroupTarget) : Datum :=
  .object [("policy_target", .text g.policyTarget), ("rule_targets", textsDatum g.ruleTargets)]

/-- Reads a policy with its rules: a list of two items. -/
def policyRules? (dialect : Dialect) : Datum → Option (String × List String)
  | .list (policy :: rules :: rest) =>
    if rest.isEmpty || dialect.allowsExtraItems then do return (← policy.text?, ← texts? rules) else none
  | _ => none

/-- Writes a policy with its rules. -/
def policyRulesDatum (entry : String × List String) : Datum := .list [.text entry.1, textsDatum entry.2]

/-- The fields of an audit trail. -/
def AuditTrail.fields : List String :=
  ["processed_policy_ids", "processed_rule_ids", "rules_by_policy", "matched_targets"]

/-- Reads an audit trail. -/
def AuditTrail.ofDatum? (dialect : Dialect) (d : Datum) : Option AuditTrail := do
  let [policyIds, ruleIds, rulesByPolicy, matched] ← d.slots dialect AuditTrail.fields | none
  return {
    processedPolicyIds := ← policyIds.required texts?
    processedRuleIds := ← ruleIds.required texts?
    rulesByPolicy := ← rulesByPolicy.required (listOf (policyRules? dialect))
    matchedTargets := ← matched.required (listOf (TargetMatch.ofDatum? dialect)) }

/-- Writes an audit trail. -/
def AuditTrail.toDatum (trail : AuditTrail) : Datum :=
  .object [("processed_policy_ids", textsDatum trail.processedPolicyIds),
    ("processed_rule_ids", textsDatum trail.processedRuleIds),
    ("rules_by_policy", .list (trail.rulesByPolicy.map policyRulesDatum)),
    ("matched_targets", .list (trail.matchedTargets.map TargetMatch.toDatum))]

/-! ### Verdicts -/

/-- The written name of a reason. -/
def DefaultReason.name : DefaultReason → String
  | noPolicySet => "no_policy_set"
  | noMatchingRule => "no_matching_rule"
  | emptyPolicyStore => "empty_policy_store"

/-- The written names of the reasons. -/
def DefaultReason.words : List (String × DefaultReason) :=
  [noPolicySet, noMatchingRule, emptyPolicyStore].map fun reason => (reason.name, reason)

/-- Reads a reason. -/
def DefaultReason.ofDatum? (dialect : Dialect) (d : Datum) : Option DefaultReason :=
  word? dialect DefaultReason.words d

/-- Writes a reason. -/
def DefaultReason.toDatum (reason : DefaultReason) : Datum := .text reason.name

/-- The kinds of verdicts. -/
inductive VerdictKind where
  | permit
  | deny
  | indeterminate

/-- The tags of the kinds of verdicts, in the order of their numbers. -/
def VerdictKind.words : List (String × VerdictKind) :=
  [("permit", .permit), ("deny", .deny), ("indeterminate", .indeterminate)]

/-- The verdict of a kind, from its record without the tag. -/
def Verdict.ofShape (kind : VerdictKind) (shape : Shape Datum) : Option Verdict :=
  match kind, shape with
  | .permit, .listed (_ :: _) | .deny, .listed (_ :: _) => none
  | .permit, _ => some .permit
  | .deny, _ => some .deny
  | .indeterminate, shape => do
    let [default, reason] ← shape.slots .tagged ["default", "reason"] | none
    return .indeterminate (← default.required (Effect.ofDatum? .tagged))
      (← reason.required (DefaultReason.ofDatum? .tagged))

/-- The verdict that a tagged record spells. -/
def Verdict.ofTagged (dialect : Dialect) (shape : Shape Datum) : Option Verdict := do
  let (tag, rest) ← shape.untag "verdict"
  Verdict.ofShape (← tag? dialect VerdictKind.words tag) rest

/-- Reads a verdict that stands alone. -/
def Verdict.ofDatum? (dialect : Dialect) (d : Datum) : Option Verdict :=
  if d.isReadable then d.shape?.bind (Verdict.ofTagged dialect) else none

/-- The members that spell a verdict. -/
def Verdict.members : Verdict → List (String × Datum)
  | permit => [("verdict", .text "permit")]
  | deny => [("verdict", .text "deny")]
  | indeterminate default reason =>
    [("verdict", .text "indeterminate"), ("default", default.toDatum), ("reason", reason.toDatum)]

/-- Writes a verdict that stands alone. -/
def Verdict.toDatum (verdict : Verdict) : Datum := .object verdict.members

/-! ### Decisions -/

/-- Reads a decision. -/
def Decision.ofDatum? (dialect : Dialect) (d : Datum) : Option Decision := do
  let members ← d.members?
  let message ← (← namedSlot? members "message").required Datum.text?
  let audit ← (← namedSlot? members "audit").required (AuditTrail.ofDatum? dialect)
  let others := members.filter fun (name, _) => name != "message" && name != "audit"
  if Datum.membersReadable others then
    return ⟨← Verdict.ofTagged .tagged (.named others), message, audit⟩
  else none

/-- Writes a decision. -/
def Decision.toDatum (d : Decision) : Datum :=
  .object (d.verdict.members ++ [("message", .text d.message), ("audit", d.audit.toDatum)])

end AccessDecision
