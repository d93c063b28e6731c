import AccessDecision.Walk
import Mathlib.Tactic.SplitIfs

/-!
# A walk as one row of visits

`visits` lists, for a policy set and a request, every rule under every pair of targets at which a walk can come
to it, in the order of the walk.  `flatWalk` reads an outcome off this row: nothing after the first denial
counts. `walk_eq_flatWalk` says that a walk gives that outcome, trail included, so facts about walks are facts
about a list.
-/

namespace AccessDecision

/-! ## Definitions -/

section Definitions

variable [PatternLimit]

/-- A rule under one of its targets and under one of the targets of its policy. The place of the policy in its set
tells policies with the same id apart. -/
structure Visit where
  place : Nat
  policy : Policy
  policyTarget : String
  rule : Rule
  ruleTarget : String

namespace Visit

/-- The id of the visited rule. -/
def ruleId (v : Visit) : String := v.rule.ruleId

/-- The pair of targets under which the rule is visited. -/
def pair (v : Visit) : TargetMatch := ⟨v.policyTarget, v.ruleTarget⟩

/-- Whether the condition of the visited rule is satisfied. -/
def isSatisfied (principal : Principal) (v : Visit) : Bool := v.rule.isSatisfied principal

/-- Whether the visited rule is a satisfied denial. -/
def denies (principal : Principal) (v : Visit) : Bool := v.rule.effect = .deny && v.isSatisfied principal

end Visit

/-- The visits under one policy: its targets that cover the resource, under each the rules that cover the action,
and under each of these the targets of the rule that cover the resource. -/
def Policy.visits (request : Request) (place : Nat) (policy : Policy) : List Visit :=
  (policy.targetResources.filter (resourceMatches request.resource)).flatMap fun policyTarget =>
    (policy.rules.filter (policy.covers · request.action)).flatMap fun rule =>
      ((policy.targetsOf rule).filter (resourceMatches request.resource)).map fun ruleTarget =>
        ⟨place, policy, policyTarget, rule, ruleTarget⟩

/-- The visits under policies whose places start at `place`. -/
def visitsFrom (request : Request) (place : Nat) (policies : List Policy) : List Visit :=
  (policies.zipIdx place).flatMap fun entry => entry.1.visits request entry.2

/-- All visits that a policy set has room for. -/
def visits (policies : List Policy) (request : Request) : List Visit := visitsFrom request 0 policies

/-- The elements up to the first one with a property, and that one too. -/
def takeThrough {α : Type} (p : α → Bool) : List α → List α
  | [] => []
  | a :: l => if p a then [a] else a :: takeThrough p l

/-- The policies, whose places start at `place`, that a walk over a row of visits enters. -/
def enteredFrom (principal : Principal) (place : Nat) (policies : List Policy) (row : List Visit) : List Policy :=
  match row.find? (Visit.denies principal) with
  | some v => policies.take (v.place + 1 - place)
  | none => policies

/-- The rules that a row of visits processes, for policies whose places start at `place`. -/
def rulesFrom (place : Nat) (policies : List Policy) (row : List Visit) : List (String × List String) :=
  (policies.zipIdx place).map fun entry =>
    (entry.1.policyId, (row.filter (·.place = entry.2)).map Visit.ruleId)

/-- The pairs of targets that a row of visits leaves in the trail, after the pairs that were there before. -/
def pairsAfter (principal : Principal) (earlier : List TargetMatch) (row : List Visit) : List TargetMatch :=
  match row.find? (Visit.denies principal) with
  | some v => [v.pair]
  | none => earlier ++ (row.filter (Visit.isSatisfied principal)).map Visit.pair

/-- The effect that a row of visits settles on, after the effect that was there before. -/
def effectAfter (principal : Principal) (earlier : Option Effect) (row : List Visit) : Option Effect :=
  if row.any (Visit.denies principal) then some .deny
  else if row.any (Visit.isSatisfied principal) then some .permit
  else earlier

/-- An outcome after the policies of a set, whose places start at `place`, given the row of their visits. -/
def Outcome.after (principal : Principal) (place : Nat) (policies : List Policy) (row : List Visit)
    (outcome : Outcome) : Outcome :=
  let walked := takeThrough (Visit.denies principal) row
  let entered := enteredFrom principal place policies row
  { decision := effectAfter principal outcome.decision row
    trail :=
      { processedPolicyIds := outcome.trail.processedPolicyIds ++ entered.map Policy.policyId
        processedRuleIds := outcome.trail.processedRuleIds ++ walked.map Visit.ruleId
        rulesByPolicy := outcome.trail.rulesByPolicy ++ rulesFrom place entered walked
        matchedTargets := pairsAfter principal outcome.trail.matchedTargets row } }

/-- The outcome that can be read off the row of visits. -/
def flatWalk (policies : List Policy) (request : Request) : Outcome :=
  Walk.start.after request.principal 0 policies (visits policies request)

end Definitions

/-! ## Taking through -/

section TakeThrough

variable {α : Type} {p : α → Bool}

theorem takeThrough_append_of_find?_some {l₁ : List α} {a : α} (h : l₁.find? p = some a) (l₂ : List α) :
    takeThrough p (l₁ ++ l₂) = takeThrough p l₁ := by
  induction l₁ with
  | nil => simp at h
  | cons b l₁ ih =>
    by_cases hb : p b = true
    · simp [takeThrough, hb]
    · have hb' : p b = false := by simpa using hb
      rw [List.find?_cons_of_neg hb] at h
      simp [takeThrough, hb', ih h]

theorem takeThrough_append_of_find?_none {l₁ : List α} (h : l₁.find? p = none) (l₂ : List α) :
    takeThrough p (l₁ ++ l₂) = l₁ ++ takeThrough p l₂ := by
  induction l₁ with
  | nil => rfl
  | cons b l₁ ih =>
    obtain ⟨hb, h⟩ : p b = false ∧ l₁.find? p = none := by simpa using h
    simp [takeThrough, hb, ih h]

theorem takeThrough_of_find?_none {l : List α} (h : l.find? p = none) : takeThrough p l = l := by
  simpa [takeThrough] using takeThrough_append_of_find?_none h []

theorem takeThrough_of_find?_some {l : List α} {a : α} (h : l.find? p = some a) :
    ∃ before, takeThrough p l = before ++ [a] := by
  induction l with
  | nil => simp at h
  | cons b l ih =>
    by_cases hb : p b = true
    · rw [List.find?_cons_of_pos hb] at h
      obtain rfl := Option.some.inj h
      exact ⟨[], by simp [takeThrough, hb]⟩
    · rw [List.find?_cons_of_neg hb] at h
      obtain ⟨before, hbefore⟩ := ih h
      exact ⟨b :: before, by simp [takeThrough, hb, hbefore]⟩

theorem mem_of_mem_takeThrough {l : List α} {a : α} (h : a ∈ takeThrough p l) : a ∈ l := by
  induction l with
  | nil => exact h
  | cons b l ih =>
    unfold takeThrough at h
    split at h
    · rw [List.mem_singleton] at h
      exact h ▸ List.mem_cons_self
    · rcases List.mem_cons.mp h with rfl | h
      · exact List.mem_cons_self
      · exact List.mem_cons_of_mem _ (ih h)

end TakeThrough

/-! ## The row of visits -/

section Rows

variable [PatternLimit] {request : Request} {place : Nat} {policy : Policy} {policies : List Policy} {v : Visit}

/-- A visit under a policy, by its parts. -/
theorem mem_policy_visits : v ∈ policy.visits request place ↔
    v.place = place ∧ v.policy = policy ∧
    v.policyTarget ∈ policy.targetResources ∧ resourceMatches request.resource v.policyTarget = true ∧
    v.rule ∈ policy.rules ∧ policy.covers v.rule request.action = true ∧
    v.ruleTarget ∈ policy.targetsOf v.rule ∧ resourceMatches request.resource v.ruleTarget = true := by
  simp only [Policy.visits, List.mem_flatMap, List.mem_filter, List.mem_map]
  constructor
  · rintro ⟨pt, ⟨hpt, hptm⟩, rule, ⟨hr, hc⟩, rt, ⟨hrt, hrtm⟩, rfl⟩
    exact ⟨rfl, rfl, hpt, hptm, hr, hc, hrt, hrtm⟩
  · rintro ⟨rfl, rfl, hpt, hptm, hr, hc, hrt, hrtm⟩
    exact ⟨v.policyTarget, ⟨hpt, hptm⟩, v.rule, ⟨hr, hc⟩, v.ruleTarget, ⟨hrt, hrtm⟩, rfl⟩

theorem visitsFrom_cons : visitsFrom request place (policy :: policies) =
    policy.visits request place ++ visitsFrom request (place + 1) policies := rfl

theorem mem_visitsFrom : v ∈ visitsFrom request place policies ↔
    ∃ i, policies[i]? = some v.policy ∧ v.place = place + i ∧ v ∈ v.policy.visits request v.place := by
  simp only [visitsFrom, List.mem_flatMap, Prod.exists, List.mk_mem_zipIdx_iff_le_and_getElem?_sub]
  constructor
  · rintro ⟨policy, n, ⟨hle, hget⟩, hv⟩
    obtain ⟨hplace, hpolicy, -⟩ := mem_policy_visits.mp hv
    subst hplace hpolicy
    exact ⟨v.place - place, hget, by omega, hv⟩
  · rintro ⟨i, hi, hplace, hv⟩
    refine ⟨v.policy, v.place, ⟨by omega, ?_⟩, hv⟩
    rwa [hplace, Nat.add_sub_cancel_left]

theorem le_place_of_mem_visitsFrom (h : v ∈ visitsFrom request place policies) : place ≤ v.place := by
  obtain ⟨i, -, hplace, -⟩ := mem_visitsFrom.mp h
  omega

end Rows

/-! ## What a row does to an outcome -/

section After

variable [PatternLimit] {principal : Principal} {earlier : List TargetMatch} {effect : Option Effect} {v : Visit}
  {row row' : List Visit}

theorem denies_eq_false_of_not_satisfied (h : v.isSatisfied principal = false) : v.denies principal = false := by
  simp [Visit.denies, h]

theorem isSatisfied_of_denies (h : v.denies principal = true) : v.isSatisfied principal = true := by
  simp only [Visit.denies, Bool.and_eq_true] at h
  exact h.2

theorem any_denies_eq_false (h : row.find? (Visit.denies principal) = none) :
    row.any (Visit.denies principal) = false := by
  simpa using h

theorem effectAfter_cons_satisfied (hs : v.isSatisfied principal = true) (hd : v.denies principal = false) :
    effectAfter principal effect (v :: row) = effectAfter principal (some .permit) row := by
  simp [effectAfter, hs, hd]

theorem effectAfter_cons_not_satisfied (hs : v.isSatisfied principal = false) :
    effectAfter principal effect (v :: row) = effectAfter principal effect row := by
  simp [effectAfter, hs, denies_eq_false_of_not_satisfied hs]

theorem effectAfter_append (h : row.find? (Visit.denies principal) = none) :
    effectAfter principal effect (row ++ row') =
      effectAfter principal (effectAfter principal effect row) row' := by
  simp only [effectAfter, List.any_append, any_denies_eq_false h, Bool.false_or, Bool.false_eq_true, if_false]
  cases row.any (Visit.isSatisfied principal) <;> simp

theorem pairsAfter_cons_denies (h : v.denies principal = true) :
    pairsAfter principal earlier (v :: row) = [v.pair] := by
  simp [pairsAfter, h]

theorem pairsAfter_cons_satisfied (hs : v.isSatisfied principal = true) (hd : v.denies principal = false) :
    pairsAfter principal earlier (v :: row) = pairsAfter principal (earlier ++ [v.pair]) row := by
  simp [pairsAfter, hs, hd]

theorem pairsAfter_cons_not_satisfied (hs : v.isSatisfied principal = false) :
    pairsAfter principal earlier (v :: row) = pairsAfter principal earlier row := by
  simp [pairsAfter, hs, denies_eq_false_of_not_satisfied hs]

theorem pairsAfter_append (h : row.find? (Visit.denies principal) = none) :
    pairsAfter principal earlier (row ++ row') =
      pairsAfter principal (pairsAfter principal earlier row) row' := by
  simp only [pairsAfter, List.find?_append, h, Option.none_or, List.filter_append, List.map_append,
    List.append_assoc]

end After

/-! ## Folding over a row -/

section Fold

variable [PatternLimit] {request : Request} {principal : Principal} {policy : Policy}

/-- Takes one visit. -/
def Outcome.visit (principal : Principal) (outcome : Outcome) (v : Visit) : Progress :=
  let trail := outcome.trail.recordRule v.ruleId
  if v.isSatisfied principal then
    match v.rule.effect with
    | .deny => .error ⟨some .deny, trail.truncateToDeny v.policyTarget v.ruleTarget⟩
    | .permit => .ok ⟨some .permit, trail.recordPermit v.policyTarget v.ruleTarget⟩
  else .ok { outcome with trail := trail }

/-- A walk that has come to an outcome, and has ended there if the row it took holds a denial. -/
def Progress.after (principal : Principal) (row : List Visit) (outcome : Outcome) : Progress :=
  if row.any (Visit.denies principal) then .error outcome else .ok outcome

theorem Progress.outcome_after (row : List Visit) (outcome : Outcome) :
    (Progress.after principal row outcome).outcome = outcome := by
  unfold Progress.after
  split <;> rfl

omit [PatternLimit] in
theorem foldlM_flatMap {α β γ : Type} {m : Type → Type} [Monad m] [LawfulMonad m] (l : List α) (f : α → List β)
    (g : γ → β → m γ) (b : γ) :
    (l.flatMap f).foldlM g b = l.foldlM (fun b a => (f a).foldlM g b) b := by
  induction l generalizing b with
  | nil => simp
  | cons a l ih => simp [ih]

/-- The nested loops under one policy take its visits in order. -/
theorem visitPolicy_eq_foldlM (place : Nat) (outcome : Outcome) :
    Walk.visitPolicy request outcome policy =
      (policy.visits request place).foldlM (Outcome.visit request.principal)
        { outcome with trail := outcome.trail.recordPolicy policy.policyId } := by
  unfold Policy.visits
  simp only [foldlM_flatMap, List.foldlM_map, List.foldlM_filter]
  rfl

omit [PatternLimit] in
theorem attributeToLast_append (ruleId id : String) (rules : List String) (earlier : List (String × List String)) :
    attributeToLast ruleId (earlier ++ [(id, rules)]) = earlier ++ [(id, rules ++ [ruleId])] := by
  induction earlier with
  | nil => rfl
  | cons first earlier ih =>
    cases earlier with
    | nil => rfl
    | cons second earlier => exact congrArg (first :: ·) ih

/-- The visits under one policy. Every rule they process is added to the last policy of the trail. -/
theorem foldlM_visit (row : List Visit) (outcome : Outcome) {earlier : List (String × List String)} {id : String}
    {rules : List String} (h : outcome.trail.rulesByPolicy = earlier ++ [(id, rules)]) :
    row.foldlM (Outcome.visit principal) outcome =
      Progress.after principal row
        ⟨effectAfter principal outcome.decision row,
          ⟨outcome.trail.processedPolicyIds,
            outcome.trail.processedRuleIds ++ (takeThrough (Visit.denies principal) row).map Visit.ruleId,
            earlier ++ [(id, rules ++ (takeThrough (Visit.denies principal) row).map Visit.ruleId)],
            pairsAfter principal outcome.trail.matchedTargets row⟩⟩ := by
  induction row generalizing outcome rules with
  | nil =>
    obtain ⟨decision, ⟨ids, ruleIds, byPolicy, pairs⟩⟩ := outcome
    simp_all [Progress.after, effectAfter, takeThrough, pairsAfter]
    rfl
  | cons v row ih =>
    have hrules : (outcome.trail.recordRule v.ruleId).rulesByPolicy = earlier ++ [(id, rules ++ [v.ruleId])] := by
      simp only [AuditTrail.recordRule, h, attributeToLast_append]
    rw [List.foldlM_cons]
    by_cases hs : v.isSatisfied principal = true
    · cases heffect : v.rule.effect with
      | deny =>
        -- the denial ends the row: nothing of the rest is taken
        have hd : v.denies principal = true := by simp [Visit.denies, heffect, hs]
        have hvisit : Outcome.visit principal outcome v = .error ⟨some .deny,
            (outcome.trail.recordRule v.ruleId).truncateToDeny v.policyTarget v.ruleTarget⟩ := by
          simp [Outcome.visit, hs, heffect]
        rw [hvisit, pairsAfter_cons_denies hd]
        simp [Progress.after, effectAfter, takeThrough, hd, AuditTrail.truncateToDeny, hrules, Visit.pair]
        rfl
      | permit =>
        have hd : v.denies principal = false := by simp [Visit.denies, heffect]
        have hvisit : Outcome.visit principal outcome v = .ok ⟨some .permit,
            (outcome.trail.recordRule v.ruleId).recordPermit v.policyTarget v.ruleTarget⟩ := by
          simp [Outcome.visit, hs, heffect]
        rw [hvisit, effectAfter_cons_satisfied hs hd, pairsAfter_cons_satisfied hs hd]
        refine (ih _ hrules).trans ?_
        simp [Progress.after, takeThrough, hd, AuditTrail.recordRule, AuditTrail.recordPermit, Visit.pair]
    · have hs : v.isSatisfied principal = false := by simpa using hs
      have hd := denies_eq_false_of_not_satisfied hs
      have hvisit : Outcome.visit principal outcome v =
          .ok { outcome with trail := outcome.trail.recordRule v.ruleId } := by
        simp [Outcome.visit, hs]
      rw [hvisit, effectAfter_cons_not_satisfied hs, pairsAfter_cons_not_satisfied hs]
      refine (ih _ hrules).trans ?_
      simp [Progress.after, takeThrough, hd, AuditTrail.recordRule]

theorem visitPolicy_eq_after (place : Nat) (outcome : Outcome) :
    Walk.visitPolicy request outcome policy =
      Progress.after request.principal (policy.visits request place)
        ⟨effectAfter request.principal outcome.decision (policy.visits request place),
          ⟨outcome.trail.processedPolicyIds ++ [policy.policyId],
            outcome.trail.processedRuleIds ++
              (takeThrough (Visit.denies request.principal) (policy.visits request place)).map Visit.ruleId,
            outcome.trail.rulesByPolicy ++ [(policy.policyId,
              (takeThrough (Visit.denies request.principal) (policy.visits request place)).map Visit.ruleId)],
            pairsAfter request.principal outcome.trail.matchedTargets (policy.visits request place)⟩⟩ := by
  have hlast : (outcome.trail.recordPolicy policy.policyId).rulesByPolicy =
      outcome.trail.rulesByPolicy ++ [(policy.policyId, [])] := rfl
  rw [visitPolicy_eq_foldlM place outcome, foldlM_visit _ _ hlast]
  rfl

/-! ### The policies of a set -/

section Policies

variable {place : Nat} {policies : List Policy} {row row' : List Visit}

theorem filter_place_of_mem_visits (h : ∀ v ∈ row, v ∈ policy.visits request place) :
    row.filter (·.place = place) = row := by
  rw [List.filter_eq_self]
  intro v hv
  simpa using (mem_policy_visits.mp (h v hv)).1

theorem filter_place_of_mem_visitsFrom {n : Nat} (hn : n < place)
    (h : ∀ v ∈ row, v ∈ visitsFrom request place policies) : row.filter (·.place = n) = [] := by
  rw [List.filter_eq_nil_iff]
  intro v hv
  have := le_place_of_mem_visitsFrom (h v hv)
  simp only [decide_eq_true_eq]
  omega

/-- Visits under a policy in front of a set add nothing to the rules of the policies of the set. -/
theorem rulesFrom_append (h : ∀ v ∈ row, v ∈ policy.visits request place) :
    rulesFrom (place + 1) policies (row ++ row') = rulesFrom (place + 1) policies row' := by
  refine List.map_congr_left fun entry hentry => ?_
  have hle : place + 1 ≤ entry.2 := List.le_snd_of_mem_zipIdx hentry
  have hnil : row.filter (·.place = entry.2) = [] := by
    rw [List.filter_eq_nil_iff]
    intro v hv
    have := (mem_policy_visits.mp (h v hv)).1
    simp only [decide_eq_true_eq]
    omega
  rw [List.filter_append, hnil, List.nil_append]

theorem rulesFrom_cons (h : ∀ v ∈ row, v ∈ policy.visits request place)
    (h' : ∀ v ∈ row', v ∈ visitsFrom request (place + 1) policies) (entered : List Policy) :
    rulesFrom place (policy :: entered) (row ++ row') =
      (policy.policyId, row.map Visit.ruleId) :: rulesFrom (place + 1) entered row' := by
  have hhead : (row ++ row').filter (·.place = place) = row := by
    rw [List.filter_append, filter_place_of_mem_visits h,
      filter_place_of_mem_visitsFrom (Nat.lt_succ_self place) h', List.append_nil]
  have hrest : rulesFrom (place + 1) entered (row ++ row') = rulesFrom (place + 1) entered row' :=
    rulesFrom_append h
  rw [← hrest]
  show (policy.policyId, _) :: _ = _
  rw [hhead]
  rfl

theorem enteredFrom_append_of_find?_some {v : Visit}
    (h : (policy.visits request place).find? (Visit.denies principal) = some v) :
    enteredFrom principal place (policy :: policies) (policy.visits request place ++ row) = [policy] := by
  have hplace : v.place = place := (mem_policy_visits.mp (List.mem_of_find?_eq_some h)).1
  simp [enteredFrom, h, hplace]

theorem enteredFrom_append_of_find?_none
    (h : (policy.visits request place).find? (Visit.denies principal) = none) :
    enteredFrom principal place (policy :: policies)
        (policy.visits request place ++ visitsFrom request (place + 1) policies) =
      policy :: enteredFrom principal (place + 1) policies (visitsFrom request (place + 1) policies) := by
  unfold enteredFrom
  rw [List.find?_append, h, Option.none_or]
  cases hrest : (visitsFrom request (place + 1) policies).find? (Visit.denies principal) with
  | none => rfl
  | some v =>
    have := le_place_of_mem_visitsFrom (List.mem_of_find?_eq_some hrest)
    have hsub : v.place + 1 - place = v.place + 1 - (place + 1) + 1 := by omega
    simp only [hsub, List.take_succ_cons]

/-- The policies of a set, from an outcome that earlier policies left. -/
theorem foldlM_visitPolicy (policies : List Policy) (place : Nat) (outcome : Outcome) :
    policies.foldlM (Walk.visitPolicy request) outcome =
      Progress.after request.principal (visitsFrom request place policies)
        (outcome.after request.principal place policies (visitsFrom request place policies)) := by
  induction policies generalizing place outcome with
  | nil =>
    simp [visitsFrom, takeThrough, enteredFrom, rulesFrom, effectAfter, pairsAfter, Progress.after, Outcome.after]
    rfl
  | cons policy policies ih =>
    rw [List.foldlM_cons, visitPolicy_eq_after place outcome, visitsFrom_cons]
    cases hfind : (policy.visits request place).find? (Visit.denies request.principal) with
    | some v =>
      -- a denial under the first policy: the others are not entered
      have hany : (policy.visits request place).any (Visit.denies request.principal) = true :=
        List.any_eq_true.mpr ⟨v, List.mem_of_find?_eq_some hfind, List.find?_some hfind⟩
      have hnone : ∀ v ∈ ([] : List Visit), v ∈ visitsFrom request (place + 1) [] := by simp
      have hcut : ∀ v ∈ takeThrough (Visit.denies request.principal) (policy.visits request place),
          v ∈ policy.visits request place := fun _ h => mem_of_mem_takeThrough h
      have hrules := rulesFrom_cons hcut hnone []
      rw [List.append_nil] at hrules
      simp only [Outcome.after, takeThrough_append_of_find?_some hfind, enteredFrom_append_of_find?_some hfind,
        effectAfter, pairsAfter, List.find?_append, hfind, Option.some_or, List.any_append, hany, Bool.true_or,
        if_true, Progress.after, hrules]
      simp [rulesFrom]
      rfl
    | none =>
      have hany := any_denies_eq_false hfind
      have hall : ∀ v ∈ policy.visits request place, v ∈ policy.visits request place := fun _ h => h
      have hcut : ∀ v ∈ takeThrough (Visit.denies request.principal) (visitsFrom request (place + 1) policies),
          v ∈ visitsFrom request (place + 1) policies := fun _ h => mem_of_mem_takeThrough h
      have hrules := rulesFrom_cons hall hcut
      have hok : ∀ o, Progress.after request.principal (policy.visits request place) o = .ok o := by
        intro o
        simp [Progress.after, hany]
      rw [hok]
      refine (ih (place + 1) _).trans ?_
      simp only [Outcome.after, Progress.after, effectAfter_append hfind, pairsAfter_append hfind,
        enteredFrom_append_of_find?_none hfind, hrules, takeThrough_append_of_find?_none hfind,
        takeThrough_of_find?_none hfind, List.any_append, hany, Bool.false_or]
      simp

end Policies

end Fold

/-- **A walk gives the outcome that can be read off its row of visits**, trail included. -/
theorem walk_eq_flatWalk [PatternLimit] (policies : List Policy) (request : Request) :
    walk policies request = flatWalk policies request := by
  unfold walk flatWalk visits
  rw [foldlM_visitPolicy policies 0, Progress.outcome_after]

/-- **The nested loops refine the row of visits.** Cut the row after the first denial.  The walk denies if and
only if there is such a visit, otherwise it permits if and only if some visit is satisfied.  The trail holds one
rule id for each visit of the cut row, satisfied or not; the ids of all policies up to the denying one, or of
all; for each of these policies, told apart by their places, the rules of its own visits; and the pair of the
denying visit alone, or without one the pairs of the satisfied visits. -/
theorem walk_refines_visits [PatternLimit] (policies : List Policy) (request : Request) :
    let row := visits policies request
    let cut := takeThrough (Visit.denies request.principal) row
    let entered := enteredFrom request.principal 0 policies row
    let outcome := walk policies request
    (outcome.decision = some .deny ↔ ∃ v ∈ row, v.denies request.principal = true) ∧
    (outcome.decision = some .permit ↔
      (∀ v ∈ row, v.denies request.principal = false) ∧ ∃ v ∈ row, v.isSatisfied request.principal = true) ∧
    (outcome.decision = none ↔ ∀ v ∈ row, v.isSatisfied request.principal = false) ∧
    outcome.trail.processedRuleIds = cut.map Visit.ruleId ∧
    outcome.trail.processedPolicyIds = entered.map Policy.policyId ∧
    outcome.trail.rulesByPolicy = entered.zipIdx.map (fun entry =>
      (entry.1.policyId, (cut.filter (·.place = entry.2)).map Visit.ruleId)) ∧
    outcome.trail.matchedTargets =
      (match row.find? (Visit.denies request.principal) with
      | some v => [v.pair]
      | none => (row.filter (Visit.isSatisfied request.principal)).map Visit.pair) := by
  intro row cut entered outcome
  -- everything is read off the flat walk, which takes the row at once
  have houtcome : outcome = flatWalk policies request := walk_eq_flatWalk policies request
  have hdecision : outcome.decision = effectAfter request.principal none row := by
    rw [houtcome]
    rfl
  have hsatisfied : (∃ v ∈ row, v.denies request.principal = true) →
      ∃ v ∈ row, v.isSatisfied request.principal = true :=
    fun ⟨v, hv, hd⟩ => ⟨v, hv, isSatisfied_of_denies hd⟩
  refine ⟨?_, ?_, ?_, ?_, ?_, ?_, ?_⟩
  · rw [hdecision, effectAfter, ← List.any_eq_true]
    split_ifs <;> simp_all
  · rw [hdecision, effectAfter]
    split_ifs with hd hs
    · obtain ⟨v, hv, hd⟩ := List.any_eq_true.mp hd
      simpa using fun h => absurd hd (by simp [h v hv])
    · simpa using ⟨by simpa using hd, List.any_eq_true.mp hs⟩
    · simpa using fun _ => by simpa using hs
  · rw [hdecision, effectAfter]
    split_ifs with hd hs
    · simpa using hsatisfied (List.any_eq_true.mp hd)
    · simpa using List.any_eq_true.mp hs
    · simpa using hs
  all_goals rw [houtcome]
  · rfl
  · rfl
  · rfl
  · show pairsAfter request.principal [] row = _
    unfold pairsAfter
    split <;> simp

end AccessDecision
