import AccessDecision.AuditTrail
import Mathlib.Data.List.DropRight
import Mathlib.Data.List.Induction

/-!
# What a trail holds after any entries

Four operations write a trail, and some of its lists repeat what others say.  `ofSteps_eq` reads every list off
the row of entries alone, so the lists agree in whatever order the operations came, and an id that was recorded
stays where it is (`ofSteps_consistent`).
-/

namespace AccessDecision

/-! ## Definitions -/

namespace AuditStep

/-- The policy that an entry visits. -/
def policy? : AuditStep → Option String
  | policy policyId => some policyId
  | _ => none

/-- The rule that an entry processes. -/
def rule? : AuditStep → Option String
  | rule ruleId => some ruleId
  | _ => none

/-- The pair of a permit. -/
def permit? : AuditStep → Option TargetMatch
  | permit policyTarget ruleTarget => some ⟨policyTarget, ruleTarget⟩
  | _ => none

/-- The pair of a denial. -/
def denial? : AuditStep → Option TargetMatch
  | deny policyTarget ruleTarget => some ⟨policyTarget, ruleTarget⟩
  | _ => none

end AuditStep

/-- The rules that are processed before any policy is visited. -/
def rulesBeforePolicies (steps : List AuditStep) : List String :=
  (steps.takeWhile (·.policy?.isNone)).filterMap AuditStep.rule?

/-- Each visited policy with the rules that are processed until the next one is visited. -/
def rulesUnderPolicies : List AuditStep → List (String × List String)
  | [] => []
  | .policy policyId :: rest => (policyId, rulesBeforePolicies rest) :: rulesUnderPolicies rest
  | _ :: rest => rulesUnderPolicies rest

/-- The pair of the last denial. -/
def lastDenial? (steps : List AuditStep) : Option TargetMatch := (steps.filterMap AuditStep.denial?).getLast?

/-- The pairs of the permits behind the last denial. -/
def permitsSinceDenial (steps : List AuditStep) : List TargetMatch :=
  (steps.rtakeWhile (·.denial?.isNone)).filterMap AuditStep.permit?

/-- The trail after a row of entries. -/
def AuditTrail.ofSteps (steps : List AuditStep) : AuditTrail := steps.foldl AuditTrail.record .empty

section Entries

variable (steps : List AuditStep)

/-! ## Rules and policies -/

/-- Rules count as processed before all policies as long as no policy was visited. -/
theorem rulesBeforePolicies_concat (step : AuditStep) :
    rulesBeforePolicies (steps ++ [step]) =
      rulesBeforePolicies steps ++ if rulesUnderPolicies steps = [] then step.rule?.toList else [] := by
  induction steps with
  | nil => cases step <;> rfl
  | cons first rest ih =>
    cases first with
    | policy policyId => rfl
    | rule ruleId => exact congrArg (ruleId :: ·) ih
    | permit _ _ | deny _ _ => exact ih

/-- A policy starts a row of its own, a rule joins the policy that was visited last, and pairs concern no policy.
-/
theorem rulesUnderPolicies_concat (step : AuditStep) :
    rulesUnderPolicies (steps ++ [step]) =
      match step with
      | .policy policyId => rulesUnderPolicies steps ++ [(policyId, [])]
      | .rule ruleId => attributeToLast ruleId (rulesUnderPolicies steps)
      | .permit _ _ | .deny _ _ => rulesUnderPolicies steps := by
  induction steps with
  | nil => cases step <;> rfl
  | cons first rest ih =>
    cases first with
    | policy policyId =>
      rw [List.cons_append, rulesUnderPolicies, rulesBeforePolicies_concat, ih]
      cases step with
      | rule ruleId =>
        -- the rule joins this policy exactly if no other one follows
        cases hrest : rulesUnderPolicies rest <;>
          simp [rulesUnderPolicies, attributeToLast, hrest, AuditStep.rule?]
      | policy _ | permit _ _ | deny _ _ => simp [rulesUnderPolicies, AuditStep.rule?]
    | rule _ | permit _ _ | deny _ _ => exact ih

theorem map_fst_rulesUnderPolicies : (rulesUnderPolicies steps).map (·.1) = steps.filterMap AuditStep.policy? := by
  induction steps with
  | nil => rfl
  | cons first rest ih =>
    cases first with
    | policy policyId => exact congrArg (policyId :: ·) ih
    | rule _ | permit _ _ | deny _ _ => exact ih

/-- A rule is processed before all policies or under one of them. -/
theorem filterMap_rule?_eq :
    steps.filterMap AuditStep.rule? = rulesBeforePolicies steps ++ (rulesUnderPolicies steps).flatMap (·.2) := by
  induction steps with
  | nil => rfl
  | cons first rest ih =>
    cases first with
    | rule ruleId => exact congrArg (ruleId :: ·) ih
    | policy _ | permit _ _ | deny _ _ => exact ih

/-! ## Pairs -/

theorem lastDenial?_concat (step : AuditStep) :
    lastDenial? (steps ++ [step]) = step.denial?.or (lastDenial? steps) := by
  unfold lastDenial?
  rw [List.filterMap_append, List.getLast?_append]
  cases step <;> rfl

theorem permitsSinceDenial_concat (step : AuditStep) :
    permitsSinceDenial (steps ++ [step]) =
      if step.denial?.isNone then permitsSinceDenial steps ++ step.permit?.toList else [] := by
  unfold permitsSinceDenial
  rw [List.rtakeWhile_concat]
  split_ifs
  · rw [List.filterMap_append]
    cases step <;> rfl
  · rfl

/-! ## Trails -/

theorem AuditTrail.ofSteps_concat (step : AuditStep) :
    AuditTrail.ofSteps (steps ++ [step]) = (AuditTrail.ofSteps steps).record step := by
  unfold AuditTrail.ofSteps
  rw [List.foldl_append]
  rfl

/-- **What a trail holds** can be read off the entries, one list at a time. -/
theorem AuditTrail.ofSteps_eq :
    AuditTrail.ofSteps steps = {
      processedPolicyIds := steps.filterMap AuditStep.policy?
      processedRuleIds := steps.filterMap AuditStep.rule?
      rulesByPolicy := rulesUnderPolicies steps
      matchedTargets := (lastDenial? steps).toList ++ permitsSinceDenial steps } := by
  induction steps using List.reverseRecOn with
  | nil => rfl
  | append_singleton steps step ih =>
    rw [AuditTrail.ofSteps_concat, ih, List.filterMap_append, List.filterMap_append, rulesUnderPolicies_concat,
      lastDenial?_concat, permitsSinceDenial_concat]
    -- each part follows the step that it reads, and no other step reaches it
    cases step with
    | policy policyId =>
      simp [record, recordPolicy, AuditStep.policy?, AuditStep.rule?, AuditStep.permit?, AuditStep.denial?]
    | rule ruleId =>
      simp [record, recordRule, AuditStep.policy?, AuditStep.rule?, AuditStep.permit?, AuditStep.denial?]
    | permit policyTarget ruleTarget =>
      simp [record, recordPermit, AuditStep.policy?, AuditStep.rule?, AuditStep.permit?, AuditStep.denial?]
    | deny policyTarget ruleTarget =>
      simp [record, truncateToDeny, AuditStep.policy?, AuditStep.rule?, AuditStep.denial?]

end Entries

/-- **The lists of a trail agree after any entries.** The visited policies are those under which rules are
listed, and each policy has the rules that were processed until the next one was visited.  The processed rules
are those that came before any policy, followed by those listed under the policies.  The pairs are those of the
permits behind the last denial, with the pair of that denial in front.  Whatever is recorded later, the ids that
were processed stay in front of the new ones, in their order. -/
theorem AuditTrail.ofSteps_consistent (steps : List AuditStep) :
    let trail := AuditTrail.ofSteps steps
    trail.processedPolicyIds = trail.rulesByPolicy.map (·.1) ∧
      trail.processedRuleIds = rulesBeforePolicies steps ++ trail.rulesByPolicy.flatMap (·.2) ∧
      trail.rulesByPolicy = rulesUnderPolicies steps ∧
      trail.matchedTargets = (lastDenial? steps).toList ++ permitsSinceDenial steps ∧
      ∀ later, trail.processedPolicyIds <+: (AuditTrail.ofSteps (steps ++ later)).processedPolicyIds ∧
        trail.processedRuleIds <+: (AuditTrail.ofSteps (steps ++ later)).processedRuleIds := by
  simp only [AuditTrail.ofSteps_eq, List.filterMap_append]
  exact ⟨(map_fst_rulesUnderPolicies steps).symm, filterMap_rule?_eq steps, trivial, trivial,
    fun later => ⟨List.prefix_append _ _, List.prefix_append _ _⟩⟩

example : AuditTrail.ofSteps
    [.rule "R0", .permit "/a" "/a", .policy "P1", .rule "R1", .deny "/b" "/b", .policy "P2", .permit "/c" "/d"] =
      ⟨["P1", "P2"], ["R0", "R1"], [("P1", ["R1"]), ("P2", [])], [⟨"/b", "/b"⟩, ⟨"/c", "/d"⟩]⟩ := by decide

end AccessDecision
