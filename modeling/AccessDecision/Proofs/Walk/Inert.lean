import AccessDecision.Pattern.Size
import AccessDecision.Proofs.Walk.Visits
import Mathlib.Data.List.Basic

/-!
# Rules that can be deleted

Deleting rules from a policy set takes their visits out of the row of visits and leaves the others in order
(`visits_keep`).  A rule that no visit comes to leaves the row as it is.  A rule that is visited but not
satisfied leaves its id in the trail, once for each visit, and nothing else: neither the first denial nor the
pairs of targets depend on it (`walk_keep`).
-/

namespace AccessDecision

/-! ## Definitions -/

/-- A policy with only those of its rules that are kept. -/
def Policy.keep (keeps : Policy → Rule → Bool) (policy : Policy) : Policy :=
  { policy with rules := policy.rules.filter (keeps policy) }

/-- A rule is inert for a request: it does not cover the action, or none of its normalized targets covers the
resource. Without targets of its own it has those of its policy; an empty list of its own covers nothing. -/
def Rule.IsInert [PatternLimit] (rule : Rule) (policy : Policy) (request : Request) : Prop :=
  policy.covers rule request.action = false ∨
    ∀ target ∈ policy.targetsOf rule, resourceMatches request.resource target = false

/-- The condition of a rule does not hold for a principal: it is false or malformed. -/
def Rule.Fails [PatternLimit] (rule : Rule) (principal : Principal) : Prop :=
  ∃ c, rule.condition = some c ∧ (c.evaluate principal = .ok false ∨ ∃ e, c.evaluate principal = .error e)

namespace Visit

/-- Whether the visited rule is kept. -/
def isKept (keeps : Policy → Rule → Bool) (v : Visit) : Bool := keeps v.policy v.rule

/-- The same visit after rules were deleted. -/
def keep (keeps : Policy → Rule → Bool) (v : Visit) : Visit := { v with policy := v.policy.keep keeps }

end Visit

/-- All visits of satisfied rules in a row are kept. -/
def KeepsSatisfied [PatternLimit] (keeps : Policy → Rule → Bool) (principal : Principal) (row : List Visit) :
    Prop :=
  ∀ v ∈ row, v.isSatisfied principal = true → v.isKept keeps = true

/-! ## Rows without some members -/

section Rows

variable {α : Type} {p q : α → Bool} {l : List α}

theorem find?_filter_of_imp (h : ∀ a ∈ l, q a = true → p a = true) : (l.filter p).find? q = l.find? q := by
  induction l with
  | nil => rfl
  | cons a l ih =>
    obtain ⟨ha, hl⟩ := List.forall_mem_cons.mp h
    cases hq : q a with
    | true => rw [List.filter_cons_of_pos (ha hq), List.find?_cons_of_pos hq, List.find?_cons_of_pos hq]
    | false =>
      have hskip : (a :: l).find? q = l.find? q := List.find?_cons_of_neg (by simp [hq])
      rw [hskip, ← ih hl]
      cases hp : p a <;> simp [hp, hq]

theorem takeThrough_filter_of_imp (h : ∀ a ∈ l, q a = true → p a = true) :
    takeThrough q (l.filter p) = (takeThrough q l).filter p := by
  induction l with
  | nil => rfl
  | cons a l ih =>
    obtain ⟨ha, hl⟩ := List.forall_mem_cons.mp h
    cases hq : q a with
    | true => simp [takeThrough, hq, ha hq]
    | false => cases hp : p a <;> simp [takeThrough, hq, hp, ih hl]

theorem filter_filter_of_imp (h : ∀ a ∈ l, q a = true → p a = true) : (l.filter p).filter q = l.filter q := by
  rw [List.filter_filter]
  refine List.filter_congr fun a ha => ?_
  cases hq : q a with
  | true => rw [h a ha hq, Bool.and_self]
  | false => exact Bool.false_and _

/-- Members that are left out may as well contribute nothing. -/
theorem flatMap_filter_of_eq {β : Type} {f g : α → List β} (h : ∀ a, g a = if p a then f a else []) :
    (l.filter p).flatMap f = l.flatMap g := by
  induction l with
  | nil => rfl
  | cons a l ih =>
    rw [List.flatMap_cons, h a, ← ih]
    cases hp : p a with
    | true => rw [List.filter_cons_of_pos hp, List.flatMap_cons, if_pos rfl]
    | false => rw [List.filter_cons_of_neg (by simp [hp]), if_neg Bool.false_ne_true, List.nil_append]

theorem takeThrough_map {β : Type} (f : β → α) (l : List β) :
    takeThrough q (l.map f) = (takeThrough (q ∘ f) l).map f := by
  induction l with
  | nil => rfl
  | cons b l ih =>
    rw [List.map_cons, takeThrough, takeThrough, ih]
    show (if q (f b) = true then _ else _) = List.map f (if q (f b) = true then _ else _)
    split <;> rfl

end Rows

/-! ## The row of visits -/

section Visits

variable [PatternLimit] {keeps : Policy → Rule → Bool} {request : Request} {place : Nat} {row : List Visit}

/-- The visits of a policy without some rules are its visits of the others. -/
theorem Policy.visits_keep (policy : Policy) : (policy.keep keeps).visits request place =
    ((policy.visits request place).filter (Visit.isKept keeps)).map (Visit.keep keeps) := by
  show (List.filter _ policy.targetResources).flatMap _ = _
  unfold visits
  rw [List.filter_flatMap, List.map_flatMap]
  refine congrArg (List.flatMap · _) (funext fun policyTarget => ?_)
  show ((policy.rules.filter (keeps policy)).filter (policy.covers · request.action)).flatMap _ = _
  rw [List.filter_comm, List.filter_flatMap, List.map_flatMap]
  refine flatMap_filter_of_eq fun rule => ?_
  -- all visits of one rule are kept, or none is
  have hkept : (Visit.isKept keeps ∘ fun ruleTarget => (⟨place, policy, policyTarget, rule, ruleTarget⟩ : Visit)) =
    fun _ => keeps policy rule := rfl
  rw [List.filter_map, hkept]
  cases keeps policy rule with
  | true =>
    rw [List.filter_eq_self.mpr fun _ _ => rfl, List.map_map]
    rfl
  | false =>
    rw [List.filter_eq_nil_iff.mpr fun _ _ => Bool.false_ne_true]
    rfl

theorem visits_keep (policies : List Policy) (request : Request) (keeps : Policy → Rule → Bool) :
    visits (policies.map (Policy.keep keeps)) request =
      ((visits policies request).filter (Visit.isKept keeps)).map (Visit.keep keeps) := by
  unfold visits visitsFrom
  rw [List.zipIdx_map, List.flatMap_map, List.filter_flatMap, List.map_flatMap]
  exact congrArg (List.flatMap · _) (funext fun entry => entry.1.visits_keep)

end Visits

/-! ## What is read off the row -/

section After

variable {keeps : Policy → Rule → Bool} {principal : Principal} {place : Nat} {policies : List Policy}
  {row : List Visit} {effect : Option Effect} {earlier : List TargetMatch}

theorem rulesFrom_keep (place : Nat) (policies : List Policy) (row : List Visit) :
    rulesFrom place (policies.map (Policy.keep keeps)) (row.map (Visit.keep keeps)) =
      rulesFrom place policies row := by
  unfold rulesFrom
  rw [List.zipIdx_map, List.map_map]
  refine List.map_congr_left fun entry _ => ?_
  show (entry.1.policyId, _) = (entry.1.policyId, _)
  rw [List.filter_map, List.map_map]
  rfl

variable [PatternLimit]

theorem KeepsSatisfied.denies (h : KeepsSatisfied keeps principal row) :
    ∀ v ∈ row, v.denies principal = true → v.isKept keeps = true :=
  fun v hv hd => h v hv (isSatisfied_of_denies hd)

/-- The first denial is the same one. -/
theorem KeepsSatisfied.find?_denies (h : KeepsSatisfied keeps principal row) :
    ((row.filter (Visit.isKept keeps)).map (Visit.keep keeps)).find? (Visit.denies principal) =
      (row.find? (Visit.denies principal)).map (Visit.keep keeps) := by
  rw [List.find?_map]
  exact congrArg _ (find?_filter_of_imp h.denies)

/-- The row is cut at the same place. -/
theorem KeepsSatisfied.takeThrough_denies (h : KeepsSatisfied keeps principal row) :
    takeThrough (Visit.denies principal) ((row.filter (Visit.isKept keeps)).map (Visit.keep keeps)) =
      ((takeThrough (Visit.denies principal) row).filter (Visit.isKept keeps)).map (Visit.keep keeps) := by
  rw [takeThrough_map]
  exact congrArg _ (takeThrough_filter_of_imp h.denies)

theorem KeepsSatisfied.effectAfter_eq (h : KeepsSatisfied keeps principal row) :
    effectAfter principal effect ((row.filter (Visit.isKept keeps)).map (Visit.keep keeps)) =
      effectAfter principal effect row := by
  have hany : ∀ q : Visit → Bool, (∀ v ∈ row, q v = true → v.isKept keeps = true) → q ∘ Visit.keep keeps = q →
      ((row.filter (Visit.isKept keeps)).map (Visit.keep keeps)).any q = row.any q := by
    intro q hq hkeep
    rw [List.any_map, hkeep, ← List.isSome_find?, find?_filter_of_imp hq, List.isSome_find?]
  unfold effectAfter
  rw [hany _ h.denies rfl, hany _ h rfl]

theorem KeepsSatisfied.pairsAfter_eq (h : KeepsSatisfied keeps principal row) :
    pairsAfter principal earlier ((row.filter (Visit.isKept keeps)).map (Visit.keep keeps)) =
      pairsAfter principal earlier row := by
  unfold pairsAfter
  rw [h.find?_denies]
  cases row.find? (Visit.denies principal) with
  | some v => rfl
  | none =>
    show earlier ++ _ = earlier ++ _
    have hkeep : Visit.isSatisfied principal ∘ Visit.keep keeps = Visit.isSatisfied principal := rfl
    rw [List.filter_map, hkeep, filter_filter_of_imp h, List.map_map]
    rfl

theorem KeepsSatisfied.enteredFrom_eq (h : KeepsSatisfied keeps principal row) :
    enteredFrom principal place (policies.map (Policy.keep keeps))
        ((row.filter (Visit.isKept keeps)).map (Visit.keep keeps)) =
      (enteredFrom principal place policies row).map (Policy.keep keeps) := by
  unfold enteredFrom
  rw [h.find?_denies]
  cases row.find? (Visit.denies principal) with
  | some v => exact List.map_take.symm
  | none => rfl

end After

/-- **Deleting rules takes their visits out of the trail and changes nothing else**, if the visits of satisfied
rules are kept. -/
theorem walk_keep [PatternLimit] {policies : List Policy} {request : Request} {keeps : Policy → Rule → Bool}
    (h : KeepsSatisfied keeps request.principal (visits policies request)) :
    walk (policies.map (Policy.keep keeps)) request =
      let outcome := walk policies request
      let kept := (takeThrough (Visit.denies request.principal) (visits policies request)).filter
        (Visit.isKept keeps)
      let entered := enteredFrom request.principal 0 policies (visits policies request)
      { outcome with
        trail :=
          { outcome.trail with
            processedRuleIds := kept.map Visit.ruleId
            rulesByPolicy := rulesFrom 0 entered kept } } := by
  rw [walk_eq_flatWalk, walk_eq_flatWalk]
  unfold flatWalk Outcome.after
  dsimp only
  rw [visits_keep, h.takeThrough_denies, h.enteredFrom_eq, h.effectAfter_eq, h.pairsAfter_eq, rulesFrom_keep,
    List.map_map, List.map_map]
  rfl

/-! ## Inert rules and rules that fail -/

section Deleted

variable [PatternLimit] {policies : List Policy} {request : Request} {keeps : Policy → Rule → Bool} {v : Visit}

theorem Rule.fails_iff {rule : Rule} {principal : Principal} :
    rule.Fails principal ↔ rule.isSatisfied principal = false := by
  unfold Fails isSatisfied
  cases rule.condition with
  | none => simp
  | some c =>
    unfold Condition.isSatisfied
    cases h : c.evaluate principal with
    | ok value => simp [h]
    | error e => simp [h]

/-- No visit comes to an inert rule. -/
theorem not_isInert_of_mem_visits (hv : v ∈ visits policies request) : ¬ v.rule.IsInert v.policy request := by
  obtain ⟨i, -, -, hv⟩ := mem_visitsFrom.mp hv
  obtain ⟨-, -, -, -, -, hcovers, htarget, hmatch⟩ := mem_policy_visits.mp hv
  rintro (huncovered | hunmatched)
  · rw [hcovers] at huncovered
    cases huncovered
  · rw [hunmatched _ htarget] at hmatch
    cases hmatch

theorem mem_rules_of_mem_visits (hv : v ∈ visits policies request) :
    v.policy ∈ policies ∧ v.rule ∈ v.policy.rules := by
  obtain ⟨i, hi, -, hv⟩ := mem_visitsFrom.mp hv
  obtain ⟨-, -, -, -, hrule, -⟩ := mem_policy_visits.mp hv
  exact ⟨List.mem_of_getElem? hi, hrule⟩

/-- If all visits are kept, nothing changes. -/
theorem walk_keep_of_isKept (h : ∀ v ∈ visits policies request, v.isKept keeps = true) :
    walk (policies.map (Policy.keep keeps)) request = walk policies request := by
  have hkept : (takeThrough (Visit.denies request.principal) (visits policies request)).filter
      (Visit.isKept keeps) =
      takeThrough (Visit.denies request.principal) (visits policies request) :=
    List.filter_eq_self.mpr fun v hv => h v (mem_of_mem_takeThrough hv)
  rw [walk_keep fun v hv _ => h v hv, hkept, walk_eq_flatWalk]
  rfl

end Deleted

/-- **Inert rules can be deleted, and rules that fail leave nothing but their ids.** Deleting inert rules, all of
them or some, changes nothing in the outcome of a walk.  Deleting rules that fail as well leaves the decision,
the pairs of targets and the policies as they are.  Of the rules in the trail, which are those of the visits up
to the first denial, it removes those of the visits of deleted rules, and the others keep their order and their
policies. -/
theorem walk_without_inert_rules [PatternLimit] (policies : List Policy) (request : Request)
    (keeps : Policy → Rule → Bool) :
    ((∀ policy ∈ policies, ∀ rule ∈ policy.rules, keeps policy rule = false → rule.IsInert policy request) →
      walk (policies.map (Policy.keep keeps)) request = walk policies request) ∧
    ((∀ policy ∈ policies, ∀ rule ∈ policy.rules, keeps policy rule = false →
        rule.IsInert policy request ∨ rule.Fails request.principal) →
      let cut := takeThrough (Visit.denies request.principal) (visits policies request)
      let entered := enteredFrom request.principal 0 policies (visits policies request)
      let outcome := walk policies request
      let outcome' := walk (policies.map (Policy.keep keeps)) request
      outcome'.decision = outcome.decision ∧
      outcome'.trail.matchedTargets = outcome.trail.matchedTargets ∧
      outcome'.trail.processedPolicyIds = outcome.trail.processedPolicyIds ∧
      outcome.trail.processedRuleIds = cut.map Visit.ruleId ∧
      outcome'.trail.processedRuleIds = (cut.filter fun v => keeps v.policy v.rule).map Visit.ruleId ∧
      outcome.trail.rulesByPolicy = entered.zipIdx.map (fun entry =>
        (entry.1.policyId, (cut.filter (·.place = entry.2)).map Visit.ruleId)) ∧
      outcome'.trail.rulesByPolicy = entered.zipIdx.map (fun entry =>
        (entry.1.policyId,
          ((cut.filter fun v => keeps v.policy v.rule).filter (·.place = entry.2)).map Visit.ruleId))) := by
  constructor
  · intro hinert
    refine walk_keep_of_isKept fun v hv => ?_
    obtain ⟨hpolicy, hrule⟩ := mem_rules_of_mem_visits hv
    by_contra hdeleted
    exact not_isInert_of_mem_visits hv (hinert _ hpolicy _ hrule (Bool.eq_false_iff.mpr hdeleted))
  · intro hdeletable cut entered outcome outcome'
    -- no visit of a deleted rule is satisfied: an inert rule has no visits, and the others fail
    have hsatisfied : KeepsSatisfied keeps request.principal (visits policies request) := by
      intro v hv hs
      obtain ⟨hpolicy, hrule⟩ := mem_rules_of_mem_visits hv
      by_contra hdeleted
      rcases hdeletable _ hpolicy _ hrule (Bool.eq_false_iff.mpr hdeleted) with hinert | hfails
      · exact not_isInert_of_mem_visits hv hinert
      · rw [Rule.fails_iff] at hfails
        exact Bool.false_ne_true (hfails.symm.trans hs)
    have houtcome : outcome = flatWalk policies request := walk_eq_flatWalk policies request
    have houtcome' := walk_keep hsatisfied
    exact ⟨congrArg (·.decision) houtcome', congrArg (·.trail.matchedTargets) houtcome',
      congrArg (·.trail.processedPolicyIds) houtcome', congrArg (·.trail.processedRuleIds) houtcome,
      congrArg (·.trail.processedRuleIds) houtcome', congrArg (·.trail.rulesByPolicy) houtcome,
      congrArg (·.trail.rulesByPolicy) houtcome'⟩

/-- A policy with a rule for no target, one for another action, a malformed denial, a permit for nobody and a
permit for two targets. -/
def archivePolicy : Policy :=
  ⟨"archive", ["/a/[a-z]+"], ["read"],
    [⟨"nowhere", some [], [], .deny, none⟩, ⟨"writers", none, ["write"], .deny, none⟩,
     ⟨"malformed", none, [], .deny, some (.compare .equal [])⟩,
     ⟨"nobody", none, [], .permit, some (.combine .or [])⟩,
     ⟨"readers", some ["/a/b", " /a/[a-z]+ "], [], .permit, none⟩]⟩

/-- The first two rules of the archive change nothing, and of the others only the last one is needed: its visits
are all that is left in the trail. -/
theorem archive_without_inert_rules :
    let request : Request := ⟨"/a/b", some "read", ⟨"someone", fun _ => none⟩⟩
    let reached : Policy → Rule → Bool := fun _ rule => rule.ruleId != "nowhere" && rule.ruleId != "writers"
    let needed : Policy → Rule → Bool := fun _ rule => rule.ruleId == "readers"
    (∀ policy ∈ [archivePolicy], ∀ rule ∈ policy.rules, reached policy rule = false →
      rule.IsInert policy request) ∧
    walk [archivePolicy.keep reached] request = walk [archivePolicy] request ∧
    (∀ policy ∈ [archivePolicy], ∀ rule ∈ policy.rules, needed policy rule = false →
      rule.IsInert policy request ∨ rule.Fails request.principal) ∧
    (walk [archivePolicy] request).trail.processedRuleIds = ["malformed", "nobody", "readers", "readers"] ∧
    (walk [archivePolicy.keep needed] request).trail.processedRuleIds = ["readers", "readers"] ∧
    (walk [archivePolicy.keep needed] request).decision = (walk [archivePolicy] request).decision := by
  intro request reached needed
  have hinert : ∀ policy ∈ [archivePolicy], ∀ rule ∈ policy.rules, reached policy rule = false →
      rule.IsInert policy request := by
    simp only [archivePolicy, List.forall_mem_cons]
    refine ⟨⟨fun _ => Or.inr (by decide), fun _ => Or.inl (by decide), fun h => ?_, fun h => ?_,
      fun h => ?_, by simp⟩, by simp⟩ <;> cases h
  have hdeletable : ∀ policy ∈ [archivePolicy], ∀ rule ∈ policy.rules, needed policy rule = false →
      rule.IsInert policy request ∨ rule.Fails request.principal := by
    simp only [archivePolicy, List.forall_mem_cons]
    refine ⟨⟨fun _ => ?_, fun _ => ?_, fun _ => ?_, fun _ => ?_, fun h => ?_, by simp⟩, by simp⟩
    · exact Or.inl (Or.inr (by decide))
    · exact Or.inl (Or.inl (by decide))
    · exact Or.inr ⟨_, rfl, Or.inr ⟨_, rfl⟩⟩
    · exact Or.inr ⟨_, rfl, Or.inl rfl⟩
    · cases h
  obtain ⟨hdecision, -, -, hids, hids', -⟩ :=
    (walk_without_inert_rules [archivePolicy] request needed).2 hdeletable
  refine ⟨hinert, (walk_without_inert_rules [archivePolicy] request reached).1 hinert, hdeletable, ?_, ?_,
    hdecision⟩
  · rw [hids]
    decide +kernel
  · show (walk ([archivePolicy].map (Policy.keep needed)) request).trail.processedRuleIds = _
    rw [hids']
    decide +kernel

end AccessDecision
