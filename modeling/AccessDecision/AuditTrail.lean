/-!
# Audit trails

An `AuditTrail` records the policies and rules visited while a query was decided, and the pairs of policy target
and rule target that fired.  Permits add pairs; a denial discards all pairs and leaves its own.
-/

namespace AccessDecision

/-- A policy target and the rule target that fired under it. -/
structure TargetMatch where
  policyTarget : String
  ruleTarget : String
  deriving DecidableEq, Inhabited, Repr

/-- The rule targets that fired under one policy target. -/
structure GroupTarget where
  policyTarget : String
  ruleTargets : List String
  deriving DecidableEq, Inhabited, Repr

/-- The record of one decision. -/
structure AuditTrail where
  processedPolicyIds : List String
  processedRuleIds : List String
  /-- For each visited policy the rules processed under it. -/
  rulesByPolicy : List (String × List String)
  matchedTargets : List TargetMatch
  deriving DecidableEq, Inhabited, Repr

/-- Adds a rule to the last entry of a list of policies; without any policy nothing changes. -/
def attributeToLast (ruleId : String) : List (String × List String) → List (String × List String)
  | [] => []
  | [(policy, rules)] => [(policy, rules ++ [ruleId])]
  | first :: second :: rest => first :: attributeToLast ruleId (second :: rest)

/-- Adds a pair to groups of rule targets: to the first group of its policy target unless it is there already, or
as a new group at the end. -/
def addToGroups (pair : TargetMatch) : List GroupTarget → List GroupTarget
  | [] => [⟨pair.policyTarget, [pair.ruleTarget]⟩]
  | group :: rest =>
    if group.policyTarget = pair.policyTarget then
      (if pair.ruleTarget ∈ group.ruleTargets then group
        else { group with ruleTargets := group.ruleTargets ++ [pair.ruleTarget] }) :: rest
    else group :: addToGroups pair rest

namespace AuditTrail

/-- The trail in which nothing is recorded. -/
def empty : AuditTrail := ⟨[], [], [], []⟩

/-- Records that a policy was visited. -/
def recordPolicy (trail : AuditTrail) (policyId : String) : AuditTrail :=
  { trail with
    processedPolicyIds := trail.processedPolicyIds ++ [policyId]
    rulesByPolicy := trail.rulesByPolicy ++ [(policyId, [])] }

/-- Records that a rule was processed, under the policy that was visited last. -/
def recordRule (trail : AuditTrail) (ruleId : String) : AuditTrail :=
  { trail with
    processedRuleIds := trail.processedRuleIds ++ [ruleId]
    rulesByPolicy := attributeToLast ruleId trail.rulesByPolicy }

/-- Adds the target pair of a permit that fired. -/
def recordPermit (trail : AuditTrail) (policyTarget ruleTarget : String) : AuditTrail :=
  { trail with matchedTargets := trail.matchedTargets ++ [⟨policyTarget, ruleTarget⟩] }

/-- Discards all target pairs and keeps the one of a denial. -/
def truncateToDeny (trail : AuditTrail) (policyTarget ruleTarget : String) : AuditTrail :=
  { trail with matchedTargets := [⟨policyTarget, ruleTarget⟩] }

/-- The policy visited last. -/
def currentPolicy? (trail : AuditTrail) : Option String := trail.processedPolicyIds.getLast?

/-- The rule processed last. -/
def currentRule? (trail : AuditTrail) : Option String := trail.processedRuleIds.getLast?

/-- Whether no rule was processed and no pair recorded; visited policies do not count. -/
def isEmpty (trail : AuditTrail) : Bool :=
  trail.processedRuleIds.isEmpty && trail.matchedTargets.isEmpty

/-- The recorded rule targets by policy target, each once, in the order of first occurrence. -/
def groupTargets (trail : AuditTrail) : List GroupTarget :=
  trail.matchedTargets.foldl (fun groups pair => addToGroups pair groups) []

/-- One visited policy of the summary. -/
def summaryEntry (entry : String × List String) : String :=
  "\x7bPolicy : " ++ entry.1
    ++ (if entry.2.isEmpty then "" else " : Rules [" ++ String.intercalate "," entry.2 ++ "]") ++ "\x7d"

/-- The visited policies with their rules, each between braces. -/
def policySummary (trail : AuditTrail) : String :=
  String.join (trail.rulesByPolicy.map summaryEntry)

end AuditTrail

/-- One entry in the record of a decision. -/
inductive AuditStep where
  | policy (policyId : String)
  | rule (ruleId : String)
  | permit (policyTarget ruleTarget : String)
  | deny (policyTarget ruleTarget : String)
  deriving DecidableEq, Repr

/-- Makes an entry. -/
def AuditTrail.record (trail : AuditTrail) : AuditStep → AuditTrail
  | .policy policyId => trail.recordPolicy policyId
  | .rule ruleId => trail.recordRule ruleId
  | .permit policyTarget ruleTarget => trail.recordPermit policyTarget ruleTarget
  | .deny policyTarget ruleTarget => trail.truncateToDeny policyTarget ruleTarget

end AccessDecision
