import AccessDecision.Decide
import AccessDecision.Pattern.Size
import AccessDecision.Proofs.Walk.Firing

/-!
# Walks in lockstep

Two walks over policy sets of the same shape take the same steps as long as they read the same of each policy and
rule: ids, targets, the actions that are covered, effects, and whether the condition is satisfied
(`Policy.InStep`).  Nothing else of a condition and nothing else of the principal is read, so a malformed
condition cannot be told from an unsatisfied one, and no decision shows more of the principal than which rules it
satisfies (`decidePolicies_eq_of_settledAlike`).
-/

namespace AccessDecision

/-! ## Definitions -/

section Definitions

variable [PatternLimit]

/-- A walk reads the same of two rules, each of its own policy and for its own request. -/
structure Rule.InStep (request request' : Request) (policy policy' : Policy) (rule rule' : Rule) : Prop where
  ruleId : rule.ruleId = rule'.ruleId
  effect : rule.effect = rule'.effect
  covers : policy.covers rule request.action = policy'.covers rule' request'.action
  targets : policy.targetsOf rule = policy'.targetsOf rule'
  satisfied : rule.isSatisfied request.principal = rule'.isSatisfied request'.principal

/-- A walk reads the same of two policies, each for its own request. -/
structure Policy.InStep (request request' : Request) (policy policy' : Policy) : Prop where
  policyId : policy.policyId = policy'.policyId
  targets : policy.targetResources = policy'.targetResources
  rules : List.Forall₂ (Rule.InStep request request' policy policy') policy.rules policy'.rules

/-- Two rules that are equal except for their conditions, which are satisfied for both principals or for neither.
-/
structure Rule.SettledAlike (principal principal' : Principal) (rule rule' : Rule) : Prop where
  ruleId : rule.ruleId = rule'.ruleId
  targets : rule.targets = rule'.targets
  actions : rule.actions = rule'.actions
  effect : rule.effect = rule'.effect
  satisfied : (∀ c, rule.condition = some c → c.evaluate principal = .ok true) ↔
    ∀ c, rule'.condition = some c → c.evaluate principal' = .ok true

/-- Two policies that are equal except for the conditions of their rules. -/
structure Policy.SettledAlike (principal principal' : Principal) (policy policy' : Policy) : Prop where
  policyId : policy.policyId = policy'.policyId
  targets : policy.targets = policy'.targets
  actions : policy.actions = policy'.actions
  rules : List.Forall₂ (Rule.SettledAlike principal principal') policy.rules policy'.rules

/-- A rule whose condition is settled: there is none where the principal satisfies it, and elsewhere one that
nobody satisfies. -/
def Rule.settle (principal : Principal) (rule : Rule) : Rule :=
  { rule with condition := if rule.isSatisfied principal then none else some (.combine .or []) }

/-- A policy whose conditions are settled. -/
def Policy.settle (principal : Principal) (policy : Policy) : Policy :=
  { policy with rules := policy.rules.map (Rule.settle principal) }

end Definitions

/-! ## Two walks -/

section Walks

/-- Two folds whose steps agree at every place agree. -/
theorem foldlM_eq_of_forall₂ {α β γ : Type} {m : Type → Type} [Monad m] {f : γ → α → m γ} {g : γ → β → m γ}
    {l : List α} {l' : List β} (h : List.Forall₂ (fun a b => ∀ c, f c a = g c b) l l') (c : γ) :
    l.foldlM f c = l'.foldlM g c := by
  induction h generalizing c with
  | nil => rfl
  | cons hstep _ ih =>
    rw [List.foldlM_cons, List.foldlM_cons, hstep]
    exact congrArg _ (funext ih)

variable [PatternLimit] {request request' : Request} {policy policy' : Policy} {rule rule' : Rule}

theorem Rule.InStep.visitRuleTarget (h : rule.InStep request request' policy policy' rule')
    (hresource : request.resource = request'.resource) (policyTarget : String) (outcome : Outcome)
    (ruleTarget : String) :
    Walk.visitRuleTarget request rule policyTarget outcome ruleTarget =
      Walk.visitRuleTarget request' rule' policyTarget outcome ruleTarget := by
  unfold Walk.visitRuleTarget
  rw [hresource, h.ruleId, h.satisfied, h.effect]

theorem Rule.InStep.visitRule (h : rule.InStep request request' policy policy' rule')
    (hresource : request.resource = request'.resource) (policyTarget : String) (outcome : Outcome) :
    Walk.visitRule request policy policyTarget outcome rule =
      Walk.visitRule request' policy' policyTarget outcome rule' := by
  have hstep : Walk.visitRuleTarget request rule policyTarget = Walk.visitRuleTarget request' rule' policyTarget :=
    funext fun outcome => funext fun ruleTarget => h.visitRuleTarget hresource policyTarget outcome ruleTarget
  unfold Walk.visitRule
  rw [h.covers, h.targets, hstep]

theorem Policy.InStep.visitPolicyTarget (h : policy.InStep request request' policy')
    (hresource : request.resource = request'.resource) (outcome : Outcome) (policyTarget : String) :
    Walk.visitPolicyTarget request policy outcome policyTarget =
      Walk.visitPolicyTarget request' policy' outcome policyTarget := by
  have hrules := h.rules.imp fun rule rule' hrule outcome => hrule.visitRule hresource policyTarget outcome
  unfold Walk.visitPolicyTarget
  rw [hresource, foldlM_eq_of_forall₂ hrules]

theorem Policy.InStep.visitPolicy (h : policy.InStep request request' policy')
    (hresource : request.resource = request'.resource) (outcome : Outcome) :
    Walk.visitPolicy request outcome policy = Walk.visitPolicy request' outcome policy' := by
  have hstep : Walk.visitPolicyTarget request policy = Walk.visitPolicyTarget request' policy' :=
    funext fun outcome => funext fun policyTarget => h.visitPolicyTarget hresource outcome policyTarget
  unfold Walk.visitPolicy
  rw [h.policyId, h.targets, hstep]

/-- **Policy sets of which a walk reads the same give the same outcome**, trail included. -/
theorem walk_eq_of_inStep {policies policies' : List Policy}
    (h : List.Forall₂ (Policy.InStep request request') policies policies')
    (hresource : request.resource = request'.resource) : walk policies request = walk policies' request' := by
  have hstep := h.imp fun policy policy' hpolicy outcome => hpolicy.visitPolicy hresource outcome
  unfold walk
  rw [foldlM_eq_of_forall₂ hstep]

/-- The decisions are the same too, because the messages are read off the trail. -/
theorem decidePolicies_eq_of_inStep {policies policies' : List Policy}
    (h : List.Forall₂ (Policy.InStep request request') policies policies')
    (hresource : request.resource = request'.resource) (default : Effect) :
    decidePolicies (some policies) request default = decidePolicies (some policies') request' default := by
  have hwalk := walk_eq_of_inStep h hresource
  cases h with
  | nil => rfl
  | cons _ _ => exact congrArg (Outcome.toDecision · default) hwalk

end Walks

/-! ## Settled conditions -/

section Settled

variable [PatternLimit] {principal principal' : Principal} {policy policy' : Policy} {rule rule' : Rule}

theorem Rule.SettledAlike.isSatisfied_eq (h : rule.SettledAlike principal principal' rule') :
    rule.isSatisfied principal = rule'.isSatisfied principal' := by
  rw [Bool.eq_iff_iff, Rule.isSatisfied_iff, Rule.isSatisfied_iff]
  exact h.satisfied

theorem Policy.SettledAlike.inStep (h : policy.SettledAlike principal principal' policy') (resource : String)
    (action : Option String) : policy.InStep ⟨resource, action, principal⟩ ⟨resource, action, principal'⟩
      policy' := by
  have htargets : policy.targetResources = policy'.targetResources := congrArg normalizeTargets h.targets
  refine ⟨h.policyId, htargets, h.rules.imp fun rule rule' hrule => ⟨hrule.ruleId, hrule.effect, ?_, ?_, ?_⟩⟩
  · unfold Policy.covers Policy.actionsOf
    rw [hrule.actions, h.actions]
  · unfold Policy.targetsOf Rule.targetResources
    rw [hrule.targets, htargets]
  · exact hrule.isSatisfied_eq

theorem Rule.settle_isSatisfied (rule : Rule) (principal anyone : Principal) :
    (rule.settle principal).isSatisfied anyone = rule.isSatisfied principal := by
  unfold settle
  cases h : rule.isSatisfied principal <;> rfl

theorem Rule.settledAlike_settle (rule : Rule) (principal anyone : Principal) :
    rule.SettledAlike principal anyone (rule.settle principal) := by
  refine ⟨rfl, rfl, rfl, rfl, ?_⟩
  rw [← Rule.isSatisfied_iff, ← Rule.isSatisfied_iff, rule.settle_isSatisfied principal anyone]

theorem Policy.settledAlike_settle (policy : Policy) (principal anyone : Principal) :
    policy.SettledAlike principal anyone (policy.settle principal) := by
  refine ⟨rfl, rfl, rfl, ?_⟩
  show List.Forall₂ _ policy.rules (policy.rules.map (Rule.settle principal))
  rw [List.forall₂_map_right_iff, List.forall₂_same]
  exact fun rule _ => rule.settledAlike_settle principal anyone

end Settled

/-- **Nothing shows in a decision but which rules are satisfied.** Two policy sets that are equal except for
conditions, asked for two principals, give the same decision, message and trail alike, if the same rules are
satisfied, and an evaluation that fails counts as a condition that is not satisfied.  So the decision stays what
it is for any principal when every condition is settled. -/
theorem decidePolicies_eq_of_settledAlike [PatternLimit] (policies : List Policy) (resource : String)
    (action : Option String) (principal : Principal) (default : Effect) :
    (∀ policies' principal', List.Forall₂ (Policy.SettledAlike principal principal') policies policies' →
      decidePolicies (some policies) ⟨resource, action, principal⟩ default =
        decidePolicies (some policies') ⟨resource, action, principal'⟩ default) ∧
    ∀ anyone, decidePolicies (some policies) ⟨resource, action, principal⟩ default =
      decidePolicies (some (policies.map (Policy.settle principal))) ⟨resource, action, anyone⟩ default := by
  have halike : ∀ policies' principal',
      List.Forall₂ (Policy.SettledAlike principal principal') policies policies' →
      decidePolicies (some policies) ⟨resource, action, principal⟩ default =
        decidePolicies (some policies') ⟨resource, action, principal'⟩ default := by
    intro policies' principal' h
    have hstep := h.imp fun policy policy' hpolicy => hpolicy.inStep resource action
    exact decidePolicies_eq_of_inStep hstep rfl default
  refine ⟨halike, fun anyone => halike _ anyone ?_⟩
  rw [List.forall₂_map_right_iff, List.forall₂_same]
  exact fun policy _ => policy.settledAlike_settle principal anyone

/-- A denial under a condition, in front of a permit for everybody who reads. -/
def denialUnder (condition : Condition) : List Policy :=
  [⟨"P1", [".*"], [],
    [⟨"no-guests", none, [], .deny, some condition⟩, ⟨"readers", none, ["read"], .permit, none⟩]⟩]

/-- A denial whose condition compares nothing, asked for somebody without attributes, shows no more than the
denial of guests does when it is asked for staff. -/
theorem malformed_denial_like_unsatisfied :
    let malformed := denialUnder (.compare .equal [])
    let unsatisfied := denialUnder (.compare .equal [.designator "role", .literal ["guest"]])
    let nobody : Principal := ⟨"nobody", fun _ => none⟩
    let staff : Principal := ⟨"staff", fun id => if id = "role" then some ⟨"role", ["staff"]⟩ else none⟩
    List.Forall₂ (Policy.SettledAlike nobody staff) malformed unsatisfied ∧
      decidePolicies (some malformed) ⟨"/x", some "read", nobody⟩ .deny =
        decidePolicies (some unsatisfied) ⟨"/x", some "read", staff⟩ .deny := by
  intro malformed unsatisfied nobody staff
  have halike : List.Forall₂ (Policy.SettledAlike nobody staff) malformed unsatisfied := by
    refine .cons ⟨rfl, rfl, rfl, .cons ⟨rfl, rfl, rfl, rfl, ?_⟩ (.cons ⟨rfl, rfl, rfl, rfl, ?_⟩ .nil)⟩ .nil
    · -- an error on one side, false on the other
      constructor
      · intro h
        cases h _ rfl
      · intro h
        cases h _ rfl
    · constructor <;> intro _ c hc <;> cases hc
  exact ⟨halike, (decidePolicies_eq_of_settledAlike malformed "/x" (some "read") nobody .deny).1 _ _ halike⟩

end AccessDecision
