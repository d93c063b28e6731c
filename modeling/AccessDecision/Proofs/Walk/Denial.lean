import AccessDecision.Decide
import AccessDecision.Pattern.Size
import AccessDecision.Proofs.Walk.Firing

/-!
# The rule that denied

A decision names the rule that denied by the ids that its trail recorded last.  `FirstDenial` says without a walk
which rule that is: the first denial that fires, in the order of policies and rules, under the first targets that
cover the resource.  `exists_firstDenial` finds it in the row of visits, and the trail of a walk ends with it
(`exists_endsWith`), because nothing is recorded after a denial.

`decidePolicies_names_rule` is the result for decisions, with the message; the pairs of a permit belong to
permits that fire.
-/

namespace AccessDecision

/-! ## Definitions -/

section Definitions

variable [PatternLimit]

/-- A rule denies and fires. -/
def Rule.FiresDenial (rule : Rule) (policy : Policy) (request : Request) : Prop :=
  rule.effect = .deny ∧ rule.Fires policy request

/-- The first denial of a policy set that fires. No denial of an earlier policy fires and no earlier one of the
same policy does, and the targets are the first ones that cover the resource. -/
structure FirstDenial (policies : List Policy) (request : Request) where
  earlierPolicies : List Policy
  policy : Policy
  laterPolicies : List Policy
  earlierRules : List Rule
  rule : Rule
  laterRules : List Rule
  policyTarget : String
  ruleTarget : String
  policies_eq : policies = earlierPolicies ++ policy :: laterPolicies
  rules_eq : policy.rules = earlierRules ++ rule :: laterRules
  fires : rule.FiresDenial policy request
  policyTarget_eq : policy.targetResources.find? (resourceMatches request.resource) = some policyTarget
  ruleTarget_eq : (policy.targetsOf rule).find? (resourceMatches request.resource) = some ruleTarget
  earlierPolicies_quiet : ∀ p ∈ earlierPolicies, ∀ r ∈ p.rules, ¬ r.FiresDenial p request
  earlierRules_quiet : ∀ r ∈ earlierRules, ¬ r.FiresDenial policy request

/-- The visit at which a first denial fires. -/
def FirstDenial.visit {policies : List Policy} {request : Request} (first : FirstDenial policies request) :
    Visit :=
  ⟨first.earlierPolicies.length, first.policy, first.policyTarget, first.rule, first.ruleTarget⟩

/-- Whether a rule is a satisfied denial. -/
def Rule.denies (rule : Rule) (principal : Principal) : Bool := rule.effect = .deny && rule.isSatisfied principal

/-- Whether a rule of a policy denies under every target of the policy that covers the resource. -/
def Policy.denies (policy : Policy) (request : Request) (rule : Rule) : Bool :=
  policy.covers rule request.action &&
    (rule.denies request.principal && (policy.targetsOf rule).any (resourceMatches request.resource))

end Definitions

/-! ## The first denial in the row of visits -/

section Row

variable {request : Request} {policy : Policy} {policies : List Policy} {rule : Rule} {v : Visit} {place : Nat}

/-- The first result in a filtered row is that of the first member that has one. -/
theorem findSome?_filter {α β : Type} (p : α → Bool) (g : α → Option β) (l : List α) :
    (l.filter p).findSome? g = (l.find? fun a => p a && (g a).isSome).bind g := by
  induction l with
  | nil => rfl
  | cons a l ih => cases hp : p a <;> cases hg : g a <;> simp [hp, hg, ih]

variable [PatternLimit]

/-- The first denial among the visits of one rule. -/
theorem find?_visits_rule (policyTarget : String) (rule : Rule) :
    (((policy.targetsOf rule).filter (resourceMatches request.resource)).map fun ruleTarget =>
        (⟨place, policy, policyTarget, rule, ruleTarget⟩ : Visit)).find? (Visit.denies request.principal) =
      if rule.denies request.principal then
        ((policy.targetsOf rule).find? (resourceMatches request.resource)).map fun ruleTarget =>
          ⟨place, policy, policyTarget, rule, ruleTarget⟩
      else none := by
  have hdenies : (Visit.denies request.principal ∘ fun ruleTarget =>
      ⟨place, policy, policyTarget, rule, ruleTarget⟩) =
    fun _ => rule.denies request.principal := rfl
  rw [List.find?_map, List.find?_filter, hdenies]
  cases rule.denies request.principal <;> simp

theorem exists_target_of_denies (h : policy.denies request rule = true) :
    ∃ t, (policy.targetsOf rule).find? (resourceMatches request.resource) = some t := by
  simp only [Policy.denies, Bool.and_eq_true] at h
  rw [← Option.isSome_iff_exists, List.find?_isSome]
  exact List.any_eq_true.mp h.2.2

/-- The first denial among the visits under one target of a policy. -/
theorem find?_visits_target (policyTarget : String) :
    ((policy.rules.filter (policy.covers · request.action)).flatMap fun rule =>
        ((policy.targetsOf rule).filter (resourceMatches request.resource)).map fun ruleTarget =>
          (⟨place, policy, policyTarget, rule, ruleTarget⟩ : Visit)).find? (Visit.denies request.principal) =
      (policy.rules.find? (policy.denies request)).bind fun rule =>
        ((policy.targetsOf rule).find? (resourceMatches request.resource)).map fun ruleTarget =>
          ⟨place, policy, policyTarget, rule, ruleTarget⟩ := by
  -- a rule that covers the action has a denying visit exactly if it denies the request
  have hpred : (fun rule => policy.covers rule request.action &&
      (if rule.denies request.principal then
        ((policy.targetsOf rule).find? (resourceMatches request.resource)).map fun ruleTarget =>
          (⟨place, policy, policyTarget, rule, ruleTarget⟩ : Visit)
      else none).isSome) = policy.denies request := by
    funext rule
    unfold Policy.denies
    cases rule.denies request.principal <;> simp [List.isSome_find?]
  rw [List.find?_flatMap, findSome?_filter]
  simp only [find?_visits_rule]
  rw [hpred]
  cases hfind : policy.rules.find? (policy.denies request) with
  | none => rfl
  | some rule =>
    have hdenies := List.find?_some hfind
    simp only [Policy.denies, Bool.and_eq_true] at hdenies
    simp [hdenies.2.1]

/-- **The first denial among the visits of a policy** is that of its first rule that denies, under the first
targets. -/
theorem find?_visits_policy (request : Request) (policy : Policy) (place : Nat) :
    (policy.visits request place).find? (Visit.denies request.principal) =
      (policy.targetResources.find? (resourceMatches request.resource)).bind fun policyTarget =>
        (policy.rules.find? (policy.denies request)).bind fun rule =>
          ((policy.targetsOf rule).find? (resourceMatches request.resource)).map fun ruleTarget =>
            ⟨place, policy, policyTarget, rule, ruleTarget⟩ := by
  unfold Policy.visits
  rw [List.find?_flatMap, findSome?_filter]
  simp only [find?_visits_target]
  -- which rule denies does not depend on the target of the policy
  cases hfind : policy.rules.find? (policy.denies request) with
  | none => simp
  | some rule =>
    obtain ⟨ruleTarget, hruleTarget⟩ := exists_target_of_denies (List.find?_some hfind)
    simp [hruleTarget]

/-- No visit of a policy denies if and only if no denial of it fires. -/
theorem find?_visits_eq_none_iff : (policy.visits request place).find? (Visit.denies request.principal) = none ↔
    ∀ rule ∈ policy.rules, ¬ rule.FiresDenial policy request := by
  rw [List.find?_eq_none]
  constructor
  · rintro h rule hrule ⟨heffect, hfires⟩
    obtain ⟨v, hv, rfl, hs⟩ := hfires.exists_mem_visits hrule place
    exact h v hv (by simp [Visit.denies, heffect, hs])
  · intro h v hv hd
    simp only [Visit.denies, Bool.and_eq_true, decide_eq_true_eq] at hd
    obtain ⟨hrule, hfires⟩ := Visit.fires_of_mem hv hd.2
    exact h v.rule hrule ⟨hd.1, hfires⟩

/-- A rule that fires as a denial denies under every target of its policy. -/
theorem Rule.FiresDenial.denies (h : rule.FiresDenial policy request) : policy.denies request rule = true := by
  obtain ⟨hcovers, hs, -, ruleTarget, hrt, hrtm⟩ := Rule.fires_iff.mp h.2
  have hany : (policy.targetsOf rule).any (resourceMatches request.resource) = true :=
    List.any_eq_true.mpr ⟨ruleTarget, hrt, hrtm⟩
  simp [Policy.denies, Rule.denies, hcovers, h.1, hs, hany]

/-- The first denial of a set stands in the first policy that has one. -/
theorem exists_split_of_find?_visitsFrom
    (h : (visitsFrom request place policies).find? (Visit.denies request.principal) = some v) :
    ∃ earlier later, policies = earlier ++ v.policy :: later ∧ v.place = place + earlier.length ∧
      (v.policy.visits request v.place).find? (Visit.denies request.principal) = some v ∧
      ∀ p ∈ earlier, ∀ rule ∈ p.rules, ¬ rule.FiresDenial p request := by
  induction policies generalizing place with
  | nil => cases h
  | cons policy policies ih =>
    rw [visitsFrom_cons, List.find?_append] at h
    cases hfind : (policy.visits request place).find? (Visit.denies request.principal) with
    | some w =>
      -- the first policy holds the denial, so nothing precedes it
      rw [hfind] at h
      obtain rfl := Option.some.inj h
      obtain ⟨hplace, hpolicy, -⟩ := mem_policy_visits.mp (List.mem_of_find?_eq_some hfind)
      subst hplace hpolicy
      exact ⟨[], policies, rfl, rfl, hfind, fun p hp => absurd hp List.not_mem_nil⟩
    | none =>
      rw [hfind, Option.none_or] at h
      obtain ⟨earlier, later, rfl, hplace, hv, hquiet⟩ := ih h
      refine ⟨policy :: earlier, later, rfl, by rw [hplace, List.length_cons]; omega, hv, ?_⟩
      exact List.forall_mem_cons.mpr ⟨find?_visits_eq_none_iff.mp hfind, hquiet⟩

/-- **The first denial in the row of visits is the first denial that fires.** -/
theorem exists_firstDenial (h : (visits policies request).find? (Visit.denies request.principal) = some v) :
    ∃ first : FirstDenial policies request, v = first.visit := by
  obtain ⟨earlier, later, hpolicies, hplace, hv, hquiet⟩ := exists_split_of_find?_visitsFrom h
  -- the first denying visit of a policy is that of its first denying rule, at the first target of it that matches
  have hparts := hv
  rw [find?_visits_policy] at hparts
  obtain ⟨policyTarget, hpolicyTarget, hparts⟩ := Option.bind_eq_some_iff.mp hparts
  obtain ⟨rule, hrule, hparts⟩ := Option.bind_eq_some_iff.mp hparts
  obtain ⟨ruleTarget, hruleTarget, hparts⟩ := Option.map_eq_some_iff.mp hparts
  obtain ⟨-, earlierRules, laterRules, hrules, hearlier⟩ := List.find?_eq_some_iff_append.mp hrule
  have hd := List.find?_some hv
  simp only [Visit.denies, Bool.and_eq_true, decide_eq_true_eq] at hd
  have hruleOf : v.rule = rule := by rw [← hparts]
  have hfires : rule.FiresDenial v.policy request := by
    rw [← hruleOf]
    exact ⟨hd.1, (Visit.fires_of_mem (List.mem_of_find?_eq_some hv) hd.2).2⟩
  have hearlierQuiet : ∀ r ∈ earlierRules, ¬ r.FiresDenial v.policy request := by
    intro r hr hdenies
    have := hearlier r hr
    simp [hdenies.denies] at this
  refine ⟨⟨earlier, v.policy, later, earlierRules, rule, laterRules, policyTarget, ruleTarget, hpolicies, hrules,
    hfires, hpolicyTarget, hruleTarget, hquiet, hearlierQuiet⟩, ?_⟩
  have hlength : earlier.length = v.place := by omega
  show v = ⟨earlier.length, v.policy, policyTarget, rule, ruleTarget⟩
  rw [hlength]
  exact hparts.symm

end Row

/-! ## The trail of a denial -/

section Trail

variable {request : Request} {policies : List Policy} {row : List Visit} {place : Nat}

theorem rulesFrom_concat (policies : List Policy) (policy : Policy) (place : Nat) (row : List Visit) :
    rulesFrom place (policies ++ [policy]) row = rulesFrom place policies row ++
      [(policy.policyId, (row.filter (·.place = place + policies.length)).map Visit.ruleId)] := by
  unfold rulesFrom
  rw [List.zipIdx_append, List.map_append]
  rfl

theorem map_fst_rulesFrom (policies : List Policy) (place : Nat) (row : List Visit) :
    (rulesFrom place policies row).map Prod.fst = policies.map Policy.policyId := by
  induction policies generalizing place with
  | nil => rfl
  | cons policy policies ih => exact congrArg (policy.policyId :: ·) (ih (place + 1))

variable [PatternLimit]

/-- A trail ends with a denial: its last ids are those of the denial, and its only pair is that of the denial. -/
structure AuditTrail.EndsWith (trail : AuditTrail) (first : FirstDenial policies request) : Prop where
  policyIds : trail.processedPolicyIds = first.earlierPolicies.map Policy.policyId ++ [first.policy.policyId]
  ruleIds : ∃ ids, trail.processedRuleIds = ids ++ [first.rule.ruleId]
  rulesByPolicy : ∃ entries rules,
    trail.rulesByPolicy = entries ++ [(first.policy.policyId, rules ++ [first.rule.ruleId])] ∧
    entries.map Prod.fst = first.earlierPolicies.map Policy.policyId
  pairs : trail.matchedTargets = [⟨first.policyTarget, first.ruleTarget⟩]

/-- **A walk that denies ends with the first denial that fires.** -/
theorem exists_endsWith (h : (walk policies request).decision = some .deny) :
    ∃ first : FirstDenial policies request, (walk policies request).trail.EndsWith first := by
  rw [walk_denies_iff, ← any_denies_iff, List.any_eq_true, ← List.find?_isSome, Option.isSome_iff_exists] at h
  obtain ⟨v, hv⟩ := h
  obtain ⟨first, rfl⟩ := exists_firstDenial hv
  obtain ⟨before, hcut⟩ := takeThrough_of_find?_some hv
  -- the policies up to the denying one are entered, and no others
  have hentered : enteredFrom request.principal 0 policies (visits policies request) =
      first.earlierPolicies ++ [first.policy] := by
    unfold enteredFrom
    rw [hv]
    refine (congrArg (List.take (first.earlierPolicies.length + 1)) first.policies_eq).trans ?_
    rw [List.take_length_add_append]
    rfl
  have hrules : rulesFrom 0 (first.earlierPolicies ++ [first.policy]) (before ++ [first.visit]) =
      rulesFrom 0 first.earlierPolicies (before ++ [first.visit]) ++ [(first.policy.policyId,
        (before.filter (·.place = first.earlierPolicies.length)).map Visit.ruleId ++ [first.rule.ruleId])] := by
    rw [rulesFrom_concat, Nat.zero_add, List.filter_append]
    simp [FirstDenial.visit, Visit.ruleId]
  have hpolicyIds : (flatWalk policies request).trail.processedPolicyIds =
      (first.earlierPolicies ++ [first.policy]).map Policy.policyId := by
    rw [← hentered]
    rfl
  have hruleIds : (flatWalk policies request).trail.processedRuleIds =
      (before ++ [first.visit]).map Visit.ruleId := by
    rw [← hcut]
    rfl
  have hbyPolicy : (flatWalk policies request).trail.rulesByPolicy =
      rulesFrom 0 (first.earlierPolicies ++ [first.policy]) (before ++ [first.visit]) := by
    rw [← hentered, ← hcut]
    rfl
  have hpairs : (flatWalk policies request).trail.matchedTargets = [first.visit.pair] := by
    show pairsAfter _ _ _ = _
    unfold pairsAfter
    rw [hv]
  rw [List.map_append] at hpolicyIds hruleIds
  rw [walk_eq_flatWalk]
  exact ⟨first, hpolicyIds, ⟨_, hruleIds⟩, ⟨_, _, hbyPolicy.trans hrules, map_fst_rulesFrom _ _ _⟩, hpairs⟩

/-- **Every pair of a permit belongs to a permit that fires**, and there is one. -/
theorem pairs_of_permit (h : (walk policies request).decision = some .permit) :
    (walk policies request).trail.matchedTargets ≠ [] ∧
    ∀ pair ∈ (walk policies request).trail.matchedTargets, ∃ policy ∈ policies, ∃ rule ∈ policy.rules,
      rule.effect = .permit ∧ rule.Fires policy request ∧
      pair.policyTarget ∈ policy.targetResources ∧ resourceMatches request.resource pair.policyTarget = true ∧
      pair.ruleTarget ∈ policy.targetsOf rule ∧ resourceMatches request.resource pair.ruleTarget = true := by
  obtain ⟨hpermit, hdeny⟩ := walk_permits_iff.mp h
  rw [← any_denies_iff, List.any_eq_true, not_exists] at hdeny
  -- without a denial the pairs are those of all satisfied visits
  have hquiet : (visits policies request).find? (Visit.denies request.principal) = none :=
    List.find?_eq_none.mpr fun v hv hd => hdeny v ⟨hv, hd⟩
  have hpairs : (walk policies request).trail.matchedTargets =
      ((visits policies request).filter (Visit.isSatisfied request.principal)).map Visit.pair := by
    rw [walk_eq_flatWalk]
    show pairsAfter _ _ _ = _
    unfold pairsAfter
    rw [hquiet]
    rfl
  rw [hpairs]
  constructor
  · obtain ⟨v, hv, hs⟩ := List.any_eq_true.mp (any_isSatisfied_iff.mpr (Or.inl hpermit))
    exact List.ne_nil_of_mem (List.mem_map_of_mem (List.mem_filter.mpr ⟨hv, hs⟩))
  · intro pair hpair
    obtain ⟨v, hv, rfl⟩ := List.mem_map.mp hpair
    obtain ⟨hv, hs⟩ := List.mem_filter.mp hv
    obtain ⟨hpolicy, hrule, hfires⟩ := Visit.fires hv hs
    obtain ⟨i, -, -, hmem⟩ := mem_visitsFrom.mp hv
    obtain ⟨-, -, hpt, hptm, -, -, hrt, hrtm⟩ := mem_policy_visits.mp hmem
    have heffect : v.rule.effect = .permit := by
      cases heffect : v.rule.effect with
      | permit => rfl
      | deny => exact absurd ⟨hv, by simp [Visit.denies, heffect, hs]⟩ (hdeny v)
    exact ⟨v.policy, hpolicy, v.rule, hrule, heffect, hfires, hpt, hptm, hrt, hrtm⟩

end Trail

/-! ## Decisions -/

section Decisions

variable {request : Request} {policies : List Policy} {default : Effect}

/-- The verdict that a rule with this effect gives. -/
def Effect.verdict : Effect → Verdict
  | .permit => .permit
  | .deny => .deny

/-- The message of a denial names the policy and the rule that the trail recorded last. -/
theorem denyMessage_eq {trail : AuditTrail} {policyId ruleId : String}
    (hpolicy : trail.currentPolicy? = some policyId) (hrule : trail.currentRule? = some ruleId) :
    denyMessage trail = "Deny by policy " ++ policyId ++ " rule " ++ ruleId ++ ". Processed rules: [" ++
      String.intercalate "," trail.processedRuleIds ++ "]. Processed policies: " ++ trail.policySummary := by
  show "Deny by policy " ++ trail.currentPolicy?.getD "" ++ " rule " ++ trail.currentRule?.getD ""
    ++ _ ++ _ ++ _ ++ _ = _
  rw [hpolicy, hrule, Option.getD_some, Option.getD_some]

variable [PatternLimit]

/-- A policy set gives the verdict of an effect if and only if the walk has come to this effect. -/
theorem verdict_eq_iff (effect : Effect) :
    (decidePolicies (some policies) request default).verdict = effect.verdict ↔
      (walk policies request).decision = some effect := by
  by_cases h : policies = []
  · have hnone : (walk [] request).decision = none := rfl
    rw [h, hnone]
    cases effect <;> simp [decidePolicies, Effect.verdict]
  · rw [decidePolicies_of_ne_nil h, Outcome.verdict_toDecision]
    cases hdecision : (walk policies request).decision with
    | none => cases effect <;> simp [Effect.verdict]
    | some settled => cases settled <;> cases effect <;> simp [Effect.verdict]

/-- Where a rule has decided, the decision is that of the walk. -/
theorem decidePolicies_of_walk {effect : Effect} (h : (walk policies request).decision = some effect) :
    decidePolicies (some policies) request default = (walk policies request).toDecision default := by
  refine decidePolicies_of_ne_nil ?_ request default
  rintro rfl
  cases h

end Decisions

/-- **A decision names the rule that denied.** A denial has the pair of the first denial that fires as its only
pair, its trail ends with the ids of this rule and of its policy, and so its message names them.  The pairs of a
permit belong to permits that fire. -/
theorem decidePolicies_names_rule [PatternLimit] (policies : List Policy) (request : Request) (default : Effect) :
    let decision := decidePolicies (some policies) request default
    (decision.verdict = .deny → ∃ first : FirstDenial policies request,
      decision.audit.matchedTargets = [⟨first.policyTarget, first.ruleTarget⟩] ∧
      decision.audit.currentPolicy? = some first.policy.policyId ∧
      decision.audit.currentRule? = some first.rule.ruleId ∧
      (∃ entries rules,
        decision.audit.rulesByPolicy = entries ++ [(first.policy.policyId, rules ++ [first.rule.ruleId])] ∧
        entries.map Prod.fst = first.earlierPolicies.map Policy.policyId) ∧
      decision.message = "Deny by policy " ++ first.policy.policyId ++ " rule " ++ first.rule.ruleId ++
        ". Processed rules: [" ++ String.intercalate "," decision.audit.processedRuleIds ++
        "]. Processed policies: " ++ decision.audit.policySummary) ∧
    (decision.verdict = .permit → decision.audit.matchedTargets ≠ [] ∧
      ∀ pair ∈ decision.audit.matchedTargets, ∃ policy ∈ policies, ∃ rule ∈ policy.rules,
        rule.effect = .permit ∧ rule.Fires policy request ∧
        pair.policyTarget ∈ policy.targetResources ∧ resourceMatches request.resource pair.policyTarget = true ∧
        pair.ruleTarget ∈ policy.targetsOf rule ∧ resourceMatches request.resource pair.ruleTarget = true) := by
  intro decision
  constructor
  · intro hverdict
    have hwalk := (verdict_eq_iff .deny).mp hverdict
    have hdecision : decision = (walk policies request).toDecision default := decidePolicies_of_walk hwalk
    have hmessage : decision.message = denyMessage (walk policies request).trail := by
      rw [hdecision, Outcome.toDecision, hwalk]
    obtain ⟨first, hends⟩ := exists_endsWith hwalk
    -- the message reads policy and rule off the end of the trail
    obtain ⟨ids, hids⟩ := hends.ruleIds
    have hpolicy : (walk policies request).trail.currentPolicy? = some first.policy.policyId := by
      rw [AuditTrail.currentPolicy?, hends.policyIds, List.getLast?_concat]
    have hrule : (walk policies request).trail.currentRule? = some first.rule.ruleId := by
      rw [AuditTrail.currentRule?, hids, List.getLast?_concat]
    have haudit : decision.audit = (walk policies request).trail := by rw [hdecision, Outcome.audit_toDecision]
    rw [haudit, hmessage]
    exact ⟨first, hends.pairs, hpolicy, hrule, hends.rulesByPolicy, denyMessage_eq hpolicy hrule⟩
  · intro hverdict
    have hwalk := (verdict_eq_iff .permit).mp hverdict
    have hdecision : decision = (walk policies request).toDecision default := decidePolicies_of_walk hwalk
    rw [hdecision, Outcome.audit_toDecision]
    exact pairs_of_permit hwalk

/-- Everybody may see the page, but its owner has banned some. -/
def pageSet : List Policy :=
  [⟨"open", ["/page"], [], [⟨"all", none, [], .permit, none⟩]⟩,
    ⟨"owner", [" /page ", "/page"], [], [⟨"no-writers", none, ["write"], .deny, none⟩,
      ⟨"no-banned", none, [], .deny, some (.compare .equal [.designator "role", .literal ["banned"]])⟩]⟩]

/-- The second policy bans by its second rule, and whoever is not banned is let in by the first policy. -/
theorem pageSet_names_rule :
    let reader (role : String) : Request :=
      ⟨"/page", some "read", ⟨"reader", fun id => if id = "role" then some ⟨"role", [role]⟩ else none⟩⟩
    let banned := decidePolicies (some pageSet) (reader "banned") .deny
    let guest := decidePolicies (some pageSet) (reader "guest") .deny
    (banned.verdict = .deny ∧ ∃ first : FirstDenial pageSet (reader "banned"),
      first.rule.ruleId = "no-banned" ∧ banned.audit.currentRule? = some first.rule.ruleId ∧
      banned.audit.matchedTargets = [⟨first.policyTarget, first.ruleTarget⟩]) ∧
    guest.verdict = .permit ∧ guest.audit.matchedTargets ≠ [] := by
  intro reader banned guest
  have hbanned : banned.verdict = .deny := by decide
  have hguest : guest.verdict = .permit := by decide
  have hlast : banned.audit.currentRule? = some "no-banned" := by decide
  obtain ⟨first, hpairs, -, hrule, -⟩ := (decidePolicies_names_rule pageSet (reader "banned") .deny).1 hbanned
  have hpermit := (decidePolicies_names_rule pageSet (reader "guest") .deny).2 hguest
  exact ⟨⟨hbanned, first, Option.some.inj (hrule.symm.trans hlast), hrule, hpairs⟩, hguest, hpermit.1⟩

end AccessDecision
