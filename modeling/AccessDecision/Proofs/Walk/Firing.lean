import AccessDecision.Proofs.Walk.Visits
import Mathlib.Data.List.Forall2
import Mathlib.Tactic.SplitIfs

/-!
# Which rules fire

`Rule.Fires` says when a rule of a policy fires for a request, without any order: the action is covered, some
target of the policy and some target of the rule cover the resource, and the condition is absent or true.  What a
walk decides depends on nothing but the effects of the rules that fire: `walk_denies_iff` and `walk_permits_iff`.
So the order of policies, rules and targets plays no part in it: `Reordered.someRuleFires_iff`.
-/

namespace AccessDecision

/-! ## Definitions -/

/-- A rule of a policy fires for a request. A rule without targets of its own takes those of the policy. -/
structure Rule.Fires [PatternLimit] (rule : Rule) (policy : Policy) (request : Request) : Prop where
  covers : policy.covers rule request.action = true
  policyTarget : ∃ target ∈ policy.targets, resourceMatches request.resource (Text.trim target) = true
  ruleTarget : ∃ target ∈ rule.targets.getD policy.targets,
    resourceMatches request.resource (Text.trim target) = true
  condition : ∀ c, rule.condition = some c → c.evaluate request.principal = .ok true

/-- Some rule of a policy set fires and has this effect. -/
def SomeRuleFires [PatternLimit] (effect : Effect) (policies : List Policy) (request : Request) : Prop :=
  ∃ policy ∈ policies, ∃ rule ∈ policy.rules, rule.effect = effect ∧ rule.Fires policy request

/-! ## Targets and conditions -/

theorem mem_foldl_normalize (targets kept : List String) (t : String) :
    t ∈ targets.foldl (fun kept target =>
        let target := Text.trim target
        if target ∈ kept then kept else kept ++ [target]) kept ↔
      t ∈ kept ∨ ∃ target ∈ targets, t = Text.trim target := by
  induction targets generalizing kept with
  | nil => simp
  | cons target targets ih =>
    rw [List.foldl_cons, ih]
    simp only [List.mem_cons, exists_eq_or_imp]
    by_cases h : Text.trim target ∈ kept
    · rw [if_pos h]
      constructor
      · rintro (hk | he)
        · exact Or.inl hk
        · exact Or.inr (Or.inr he)
      · rintro (hk | rfl | he)
        · exact Or.inl hk
        · exact Or.inl h
        · exact Or.inr he
    · rw [if_neg h, List.mem_append, List.mem_singleton, or_assoc]

/-- The normalized targets are the trimmed ones. -/
theorem mem_normalizeTargets {targets : List String} {t : String} :
    t ∈ normalizeTargets targets ↔ ∃ target ∈ targets, t = Text.trim target := by
  refine (mem_foldl_normalize targets [] t).trans ?_
  simp

theorem mem_targetsOf {policy : Policy} {rule : Rule} {t : String} :
    t ∈ policy.targetsOf rule ↔ ∃ target ∈ rule.targets.getD policy.targets, t = Text.trim target := by
  unfold Policy.targetsOf Rule.targetResources Policy.targetResources
  cases rule.targets <;> exact mem_normalizeTargets

theorem Condition.isSatisfied_iff [PatternLimit] {c : Condition} {principal : Principal} :
    c.isSatisfied principal = true ↔ c.evaluate principal = .ok true := by
  unfold Condition.isSatisfied
  cases h : c.evaluate principal with
  | ok value => simp
  | error e => simp

theorem Rule.isSatisfied_iff [PatternLimit] {rule : Rule} {principal : Principal} :
    rule.isSatisfied principal = true ↔ ∀ c, rule.condition = some c → c.evaluate principal = .ok true := by
  unfold Rule.isSatisfied
  cases h : rule.condition with
  | none => simp
  | some c => simp [Condition.isSatisfied_iff]

/-! ## Visits of firing rules -/

section Visits

variable [PatternLimit] {policies : List Policy} {request : Request} {policy : Policy} {rule : Rule} {v : Visit}
  {place : Nat}

/-- A rule fires if and only if a normalized target of its policy and one of its own cover the resource, and the
rule covers the action and is satisfied. -/
theorem Rule.fires_iff : rule.Fires policy request ↔
    policy.covers rule request.action = true ∧ rule.isSatisfied request.principal = true ∧
    (∃ t ∈ policy.targetResources, resourceMatches request.resource t = true) ∧
    ∃ t ∈ policy.targetsOf rule, resourceMatches request.resource t = true := by
  constructor
  · rintro ⟨hcovers, ⟨pt, hpt, hptm⟩, ⟨rt, hrt, hrtm⟩, hcondition⟩
    exact ⟨hcovers, Rule.isSatisfied_iff.mpr hcondition, ⟨_, mem_normalizeTargets.mpr ⟨pt, hpt, rfl⟩, hptm⟩,
      ⟨_, mem_targetsOf.mpr ⟨rt, hrt, rfl⟩, hrtm⟩⟩
  · rintro ⟨hcovers, hs, ⟨t, ht, htm⟩, ⟨t', ht', htm'⟩⟩
    obtain ⟨pt, hpt, rfl⟩ := mem_normalizeTargets.mp ht
    obtain ⟨rt, hrt, rfl⟩ := mem_targetsOf.mp ht'
    exact ⟨hcovers, ⟨pt, hpt, htm⟩, ⟨rt, hrt, htm'⟩, Rule.isSatisfied_iff.mp hs⟩

/-- A satisfied visit under a policy is the visit of a rule that fires. -/
theorem Visit.fires_of_mem (hv : v ∈ policy.visits request place) (hs : v.isSatisfied request.principal = true) :
    v.rule ∈ policy.rules ∧ v.rule.Fires policy request := by
  obtain ⟨-, -, hpt, hptm, hrule, hcovers, hrt, hrtm⟩ := mem_policy_visits.mp hv
  exact ⟨hrule, Rule.fires_iff.mpr ⟨hcovers, hs, ⟨_, hpt, hptm⟩, ⟨_, hrt, hrtm⟩⟩⟩

/-- A rule that fires has a satisfied visit, at whatever place its policy stands. -/
theorem Rule.Fires.exists_mem_visits (h : rule.Fires policy request) (hrule : rule ∈ policy.rules) (place : Nat) :
    ∃ v ∈ policy.visits request place, v.rule = rule ∧ v.isSatisfied request.principal = true := by
  obtain ⟨hcovers, hs, ⟨pt, hpt, hptm⟩, ⟨rt, hrt, hrtm⟩⟩ := Rule.fires_iff.mp h
  exact ⟨⟨place, policy, pt, rule, rt⟩,
    mem_policy_visits.mpr ⟨rfl, rfl, hpt, hptm, hrule, hcovers, hrt, hrtm⟩, rfl, hs⟩

theorem Visit.fires (hv : v ∈ visits policies request) (hs : v.isSatisfied request.principal = true) :
    v.policy ∈ policies ∧ v.rule ∈ v.policy.rules ∧ v.rule.Fires v.policy request := by
  obtain ⟨i, hi, -, hmem⟩ := mem_visitsFrom.mp hv
  exact ⟨List.mem_of_getElem? hi, Visit.fires_of_mem hmem hs⟩

theorem Rule.Fires.exists_visit (h : rule.Fires policy request) (hpolicy : policy ∈ policies)
    (hrule : rule ∈ policy.rules) :
    ∃ v ∈ visits policies request, v.rule = rule ∧ v.isSatisfied request.principal = true := by
  obtain ⟨i, hi⟩ := List.mem_iff_getElem?.mp hpolicy
  obtain ⟨v, hv, hvrule, hs⟩ := h.exists_mem_visits hrule i
  obtain ⟨hplace, hvpolicy, -⟩ := mem_policy_visits.mp hv
  subst hplace hvpolicy
  exact ⟨v, mem_visitsFrom.mpr ⟨v.place, hi, (Nat.zero_add _).symm, hv⟩, hvrule, hs⟩

/-- Some rule with an effect fires if and only if a satisfied visit has that effect. -/
theorem someRuleFires_iff {effect : Effect} : SomeRuleFires effect policies request ↔
    ∃ v ∈ visits policies request, v.isSatisfied request.principal = true ∧ v.rule.effect = effect := by
  constructor
  · rintro ⟨policy, hpolicy, rule, hrule, heffect, hfires⟩
    obtain ⟨v, hv, rfl, hs⟩ := hfires.exists_visit hpolicy hrule
    exact ⟨v, hv, hs, heffect⟩
  · rintro ⟨v, hv, hs, heffect⟩
    obtain ⟨hpolicy, hrule, hfires⟩ := Visit.fires hv hs
    exact ⟨v.policy, hpolicy, v.rule, hrule, heffect, hfires⟩

theorem any_denies_iff :
    (visits policies request).any (Visit.denies request.principal) = true ↔
      SomeRuleFires .deny policies request := by
  rw [someRuleFires_iff, List.any_eq_true]
  simp only [Visit.denies, Bool.and_eq_true, decide_eq_true_eq, and_comm]

theorem any_isSatisfied_iff :
    (visits policies request).any (Visit.isSatisfied request.principal) = true ↔
      SomeRuleFires .permit policies request ∨ SomeRuleFires .deny policies request := by
  rw [someRuleFires_iff, someRuleFires_iff, List.any_eq_true]
  constructor
  · rintro ⟨v, hv, hs⟩
    cases heffect : v.rule.effect with
    | permit => exact Or.inl ⟨v, hv, hs, heffect⟩
    | deny => exact Or.inr ⟨v, hv, hs, heffect⟩
  · rintro (⟨v, hv, hs, -⟩ | ⟨v, hv, hs, -⟩) <;> exact ⟨v, hv, hs⟩

theorem walk_decision :
    (walk policies request).decision = effectAfter request.principal none (visits policies request) := by
  rw [walk_eq_flatWalk]
  rfl

/-- A walk denies if and only if some denial fires. -/
theorem walk_denies_iff :
    (walk policies request).decision = some .deny ↔ SomeRuleFires .deny policies request := by
  rw [walk_decision, effectAfter, ← any_denies_iff]
  split_ifs with hd hs <;> simp [hd]

/-- A walk permits if and only if some permit fires and no denial does. -/
theorem walk_permits_iff : (walk policies request).decision = some .permit ↔
    SomeRuleFires .permit policies request ∧ ¬ SomeRuleFires .deny policies request := by
  rw [walk_decision, effectAfter, ← any_denies_iff]
  split_ifs with hd hs
  · simp [hd]
  · rw [any_isSatisfied_iff, ← any_denies_iff] at hs
    simp [hd, hs.resolve_right hd]
  · rw [any_isSatisfied_iff, not_or] at hs
    simp [hs.1]

/-- A walk settles on nothing if and only if no rule fires. -/
theorem walk_none_iff : (walk policies request).decision = none ↔
    ∀ policy ∈ policies, ∀ rule ∈ policy.rules, ¬ rule.Fires policy request := by
  have hfires : (∃ policy ∈ policies, ∃ rule ∈ policy.rules, rule.Fires policy request) ↔
      SomeRuleFires .permit policies request ∨ SomeRuleFires .deny policies request := by
    constructor
    · rintro ⟨policy, hpolicy, rule, hrule, hfires⟩
      cases heffect : rule.effect with
      | permit => exact Or.inl ⟨policy, hpolicy, rule, hrule, heffect, hfires⟩
      | deny => exact Or.inr ⟨policy, hpolicy, rule, hrule, heffect, hfires⟩
    · rintro (⟨policy, hpolicy, rule, hrule, -, hfires⟩ | ⟨policy, hpolicy, rule, hrule, -, hfires⟩) <;>
        exact ⟨policy, hpolicy, rule, hrule, hfires⟩
  -- a walk without a decision is one in which neither effect fires
  have hnone : (walk policies request).decision = none ↔
      ¬ (SomeRuleFires .permit policies request ∨ SomeRuleFires .deny policies request) := by
    rw [walk_decision, effectAfter, ← any_isSatisfied_iff]
    split_ifs with hd hs
    · obtain ⟨v, hv, hd⟩ := List.any_eq_true.mp hd
      simpa using ⟨v, hv, isSatisfied_of_denies hd⟩
    · simp [hs]
    · simp [hs]
  rw [hnone, ← hfires]
  push Not
  rfl

end Visits

/-! ## The order of policies, rules and targets -/

/-- The second list arises from the first one by a change of order and a change of each element that `R` allows. -/
def Reordered {α : Type} (R : α → α → Prop) (l l' : List α) : Prop := ∃ m, l.Perm m ∧ List.Forall₂ R m l'

/-- Two rules that are alike up to the order of their targets; their ids play no part. -/
structure Rule.AlikeUpToOrder (rule rule' : Rule) : Prop where
  effect : rule.effect = rule'.effect
  actions : rule.actions = rule'.actions
  condition : rule.condition = rule'.condition
  targets : Option.Rel List.Perm rule.targets rule'.targets

/-- Two policies that are alike up to the order of their targets and rules and of the targets of these. -/
structure Policy.AlikeUpToOrder (policy policy' : Policy) : Prop where
  actions : policy.actions = policy'.actions
  targets : policy.targets.Perm policy'.targets
  rules : Reordered Rule.AlikeUpToOrder policy.rules policy'.rules

section Order

theorem Reordered.exists_right {α : Type} {R : α → α → Prop} {l l' : List α} (h : Reordered R l l') {a : α}
    (ha : a ∈ l) : ∃ b ∈ l', R a b := by
  obtain ⟨m, hperm, hR⟩ := h
  obtain ⟨i, hi, rfl⟩ := List.mem_iff_getElem.mp (hperm.mem_iff.mp ha)
  have hi' : i < l'.length := hR.length_eq ▸ hi
  exact ⟨l'[i], List.getElem_mem hi', hR.get hi hi'⟩

theorem Reordered.exists_left {α : Type} {R : α → α → Prop} {l l' : List α} (h : Reordered R l l') {b : α}
    (hb : b ∈ l') : ∃ a ∈ l, R a b := by
  obtain ⟨m, hperm, hR⟩ := h
  obtain ⟨i, hi, rfl⟩ := List.mem_iff_getElem.mp hb
  have hi' : i < m.length := hR.length_eq.symm ▸ hi
  exact ⟨m[i], hperm.mem_iff.mpr (List.getElem_mem hi'), hR.get hi' hi⟩

variable {request : Request}

theorem Rule.AlikeUpToOrder.fires_iff [PatternLimit] {rule rule' : Rule} {policy policy' : Policy}
    (h : rule.AlikeUpToOrder rule')
    (hp : policy.AlikeUpToOrder policy') : rule.Fires policy request ↔ rule'.Fires policy' request := by
  have hcovers : policy.covers rule request.action = policy'.covers rule' request.action := by
    unfold Policy.covers Policy.actionsOf
    rw [h.actions, hp.actions]
  have htargets : ∀ t, t ∈ rule.targets.getD policy.targets ↔ t ∈ rule'.targets.getD policy'.targets := by
    intro t
    have hrel := h.targets
    cases hr : rule.targets <;> cases hr' : rule'.targets <;> rw [hr, hr'] at hrel <;> cases hrel
    · exact hp.targets.mem_iff
    · rename_i hperm
      exact hperm.mem_iff
  constructor
  · rintro ⟨h1, ⟨pt, hpt, h2⟩, ⟨rt, hrt, h3⟩, h4⟩
    exact ⟨hcovers ▸ h1, ⟨pt, hp.targets.mem_iff.mp hpt, h2⟩, ⟨rt, (htargets rt).mp hrt, h3⟩,
      fun c hc => h4 c (h.condition.trans hc)⟩
  · rintro ⟨h1, ⟨pt, hpt, h2⟩, ⟨rt, hrt, h3⟩, h4⟩
    exact ⟨hcovers.symm ▸ h1, ⟨pt, hp.targets.mem_iff.mpr hpt, h2⟩, ⟨rt, (htargets rt).mpr hrt, h3⟩,
      fun c hc => h4 c (h.condition.symm.trans hc)⟩

/-- Whether some rule with an effect fires does not depend on any order. -/
theorem Reordered.someRuleFires_iff [PatternLimit] {policies policies' : List Policy}
    (h : Reordered Policy.AlikeUpToOrder policies policies') (effect : Effect) :
    SomeRuleFires effect policies request ↔ SomeRuleFires effect policies' request := by
  constructor
  · rintro ⟨policy, hpolicy, rule, hrule, heffect, hfires⟩
    obtain ⟨policy', hpolicy', hp⟩ := h.exists_right hpolicy
    obtain ⟨rule', hrule', hr⟩ := hp.rules.exists_right hrule
    exact ⟨policy', hpolicy', rule', hrule', hr.effect ▸ heffect, (hr.fires_iff hp).mp hfires⟩
  · rintro ⟨policy', hpolicy', rule', hrule', heffect, hfires⟩
    obtain ⟨policy, hpolicy, hp⟩ := h.exists_left hpolicy'
    obtain ⟨rule, hrule, hr⟩ := hp.rules.exists_left hrule'
    exact ⟨policy, hpolicy, rule, hrule, hr.effect.trans heffect, (hr.fires_iff hp).mpr hfires⟩

end Order

end AccessDecision
