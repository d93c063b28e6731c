import AccessDecision.Pattern.Size
import AccessDecision.Proofs.Walk.Firing
import AccessDecision.Service.DecisionPoint

/-!
# When a decision point permits

No default and no error ever permits, and a permit never survives a denial that fires.  `decide_permits_iff` says
exactly when a query is answered by a permit, whatever the store and the directory answer; the order in which a
policy set is written plays no part in the effect of the answer.
-/

namespace AccessDecision

/-! ## What the policy sets of a store decide -/

section Policies

variable {request : Request} {policies policies' : List Policy}

/-- The effect of a decision is that of the walk, or else the default. -/
theorem effect_toDecision (outcome : Outcome) (default : Effect) :
    (outcome.toDecision default).effect = outcome.decision.getD default := by
  unfold Outcome.toDecision
  split <;> simp_all [Decision.effect]

/-- With a denial as the default, the effect for a policy set is a permit exactly when the walk permits. -/
theorem effect_decidePolicies_iff [PatternLimit] :
    (decidePolicies (some policies) request .deny).effect = .permit ↔
      SomeRuleFires .permit policies request ∧ ¬ SomeRuleFires .deny policies request := by
  rw [← walk_permits_iff]
  cases policies with
  | nil => simp [decidePolicies, Decision.effect, walk, Walk.start, Progress.outcome, pure, Except.pure]
  | cons first rest =>
    rw [decidePolicies, effect_toDecision]
    cases (walk (first :: rest) request).decision <;> simp

theorem effect_decidePolicies_none [PatternLimit] : (decidePolicies none request .deny).effect = .deny := rfl

theorem Effect.eq_of_permit_iff {e e' : Effect} (h : e = .permit ↔ e' = .permit) : e = e' := by
  cases e <;> cases e' <;> simp_all

theorem effect_decidePolicies_reordered [PatternLimit] (h : Reordered Policy.AlikeUpToOrder policies policies') :
    (decidePolicies (some policies) request .deny).effect =
      (decidePolicies (some policies') request .deny).effect := by
  refine Effect.eq_of_permit_iff ?_
  rw [effect_decidePolicies_iff, effect_decidePolicies_iff, h.someRuleFires_iff, h.someRuleFires_iff]

end Policies

/-! ## The stages of a decision -/

section Stages

variable {store : PolicyStore} {sessions : SessionDirectory} {defaultMode : Effect} {query : Query}

theorem Query.emptyField?_eq_none_iff :
    query.emptyField? = none ↔ query.requester ≠ "" ∧ query.resource ≠ "" ∧ query.subjectId ≠ "" := by
  unfold Query.emptyField?
  simp only [String.isEmpty_iff]
  split_ifs <;> simp_all

variable [PatternLimit]

theorem decide_of_emptyField {field : String} (h : query.emptyField? = some field) :
    (DecisionPoint.new store sessions defaultMode).decide query = .error (.invalidQuery field) := by
  simp [DecisionPoint.decide, h, bind, Except.bind, throw, throwThe, MonadExceptOf.throw]

theorem decide_of_lookup_error {e : SessionError} (h : query.emptyField? = none)
    (hl : sessions.lookup query.subjectId = .error e) :
    (DecisionPoint.new store sessions defaultMode).decide query = .error e.toDecisionError := by
  simp [DecisionPoint.decide, DecisionPoint.new, h, hl, bind, Except.bind, Except.mapError]

/-- The answer to a well-formed query of a known subject. -/
theorem decide_of_lookup_ok {principal : Principal} (h : query.emptyField? = none)
    (hl : sessions.lookup query.subjectId = .ok principal) :
    (DecisionPoint.new store sessions defaultMode).decide query =
      .ok (if store.size = 0 then DecisionPoint.emptyStoreDecision
        else decidePolicies (store.policies query.requester) ⟨query.resource, query.action, principal⟩ .deny) := by
  simp only [DecisionPoint.decide, DecisionPoint.new, h, hl, bind, Except.bind, Except.mapError, pure, Except.pure]
  by_cases hs : store.size = 0 <;> simp [hs, resolveDefaultMode]

end Stages

/-- A query is permitted if nothing refuses it and the walk over its policy set permits it. -/
theorem exists_decide_permit_iff [PatternLimit] (store : PolicyStore) (sessions : SessionDirectory)
    (defaultMode : Effect) (query : Query) :
    (∃ d, (DecisionPoint.new store sessions defaultMode).decide query = .ok d ∧ d.effect = .permit) ↔
      query.requester ≠ "" ∧ query.resource ≠ "" ∧ query.subjectId ≠ "" ∧
      ∃ principal, sessions.lookup query.subjectId = .ok principal ∧ store.size ≠ 0 ∧
        ∃ policies, store.policies query.requester = some policies ∧
          SomeRuleFires .permit policies ⟨query.resource, query.action, principal⟩ ∧
          ¬ SomeRuleFires .deny policies ⟨query.resource, query.action, principal⟩ := by
  cases hq : query.emptyField? with
  | some field =>
    have hne : ¬ query.emptyField? = none := by simp [hq]
    rw [Query.emptyField?_eq_none_iff] at hne
    rw [decide_of_emptyField hq]
    constructor
    · rintro ⟨d, hd, -⟩
      cases hd
    · rintro ⟨hrequester, hresource, hsubject, -⟩
      exact absurd ⟨hrequester, hresource, hsubject⟩ hne
  | none =>
    obtain ⟨hrequester, hresource, hsubject⟩ := Query.emptyField?_eq_none_iff.mp hq
    cases hl : sessions.lookup query.subjectId with
    | error e =>
      rw [decide_of_lookup_error hq hl]
      simp
    | ok principal =>
      rw [decide_of_lookup_ok hq hl]
      -- only the walk over a policy set can permit
      by_cases hs : store.size = 0
      · simp [hs, DecisionPoint.emptyStoreDecision, Decision.effect]
      · cases hp : store.policies query.requester with
        | none => simp [hs, effect_decidePolicies_none]
        | some policies => simp [hs, hrequester, hresource, hsubject, effect_decidePolicies_iff]

/-- The order in which a policy set is listed makes no difference to the error or the effect. -/
theorem map_effect_decide_reordered [PatternLimit] {store store' : PolicyStore} (sessions : SessionDirectory)
    (defaultMode : Effect) {query : Query} (hsize : store'.size = store.size)
    (hrel : Option.Rel (Reordered Policy.AlikeUpToOrder) (store.policies query.requester)
      (store'.policies query.requester)) :
    ((DecisionPoint.new store' sessions defaultMode).decide query).map Decision.effect =
      ((DecisionPoint.new store sessions defaultMode).decide query).map Decision.effect := by
  cases hq : query.emptyField? with
  | some field => rw [decide_of_emptyField hq, decide_of_emptyField hq]
  | none =>
    cases hl : sessions.lookup query.subjectId with
    | error e => rw [decide_of_lookup_error hq hl, decide_of_lookup_error hq hl]
    | ok principal =>
      rw [decide_of_lookup_ok hq hl, decide_of_lookup_ok hq hl, hsize]
      by_cases hs : store.size = 0
      · rw [if_pos hs, if_pos hs]
      · rw [if_neg hs, if_neg hs]
        generalize store.policies query.requester = set at hrel ⊢
        generalize store'.policies query.requester = set' at hrel ⊢
        cases hrel with
        | none => rfl
        | some h => exact congrArg Except.ok (effect_decidePolicies_reordered h).symm

/-- **A permit is never a default and never survives a firing denial.** A query is answered by a permit if and
only if its three names are not empty, its subject has a session, the store is not empty, the requester has a
policy set, some permit of that set fires and no denial of it does. Another order of policies, rules and targets
gives the same error or the same effect. -/
theorem decide_permits_iff [PatternLimit] (store : PolicyStore) (sessions : SessionDirectory)
    (defaultMode : Effect) (query : Query) :
    ((∃ d, (DecisionPoint.new store sessions defaultMode).decide query = .ok d ∧ d.effect = .permit) ↔
      query.requester ≠ "" ∧ query.resource ≠ "" ∧ query.subjectId ≠ "" ∧
      ∃ principal, sessions.lookup query.subjectId = .ok principal ∧ store.size ≠ 0 ∧
        ∃ policies, store.policies query.requester = some policies ∧
          SomeRuleFires .permit policies ⟨query.resource, query.action, principal⟩ ∧
          ¬ SomeRuleFires .deny policies ⟨query.resource, query.action, principal⟩) ∧
    ∀ store' : PolicyStore, store'.size = store.size →
      Option.Rel (Reordered Policy.AlikeUpToOrder) (store.policies query.requester)
        (store'.policies query.requester) →
      ((DecisionPoint.new store' sessions defaultMode).decide query).map Decision.effect =
        ((DecisionPoint.new store sessions defaultMode).decide query).map Decision.effect :=
  ⟨exists_decide_permit_iff store sessions defaultMode query,
    fun _ hsize hrel => map_effect_decide_reordered sessions defaultMode hsize hrel⟩

/-! ## A set in two orders -/

/-- A permit to read and a denial to write, in two policies. -/
def readOnlySet : List Policy :=
  [⟨"P1", ["/a", "/b"], [], [⟨"R1", none, ["read"], .permit, none⟩]⟩,
    ⟨"P2", ["/a"], [], [⟨"R2", some ["/b", "/a"], ["write"], .deny, none⟩]⟩]

/-- The same policies and targets in another order. -/
def readOnlySetReordered : List Policy :=
  [⟨"P2", ["/a"], [], [⟨"R2", some ["/a", "/b"], ["write"], .deny, none⟩]⟩,
    ⟨"P1", ["/b", "/a"], [], [⟨"R1", none, ["read"], .permit, none⟩]⟩]

/-- A directory that knows every subject. -/
def openDirectory : SessionDirectory := ⟨fun subject => .ok ⟨subject, fun _ => none⟩⟩

theorem readOnlySet_reordered : Reordered Policy.AlikeUpToOrder readOnlySet readOnlySetReordered := by
  refine ⟨_, List.Perm.swap _ _ [], .cons ⟨rfl, .refl _, ?_⟩ (.cons ⟨rfl, .swap _ _ _, ?_⟩ .nil)⟩
  · exact ⟨_, .refl _, .cons ⟨rfl, rfl, rfl, .some (.swap _ _ _)⟩ .nil⟩
  · exact ⟨_, .refl _, .cons ⟨rfl, rfl, rfl, .none⟩ .nil⟩

theorem readOnlySet_permits : SomeRuleFires .permit readOnlySet ⟨"/a", some "read", ⟨"alice", fun _ => none⟩⟩ := by
  have hmatch : resourceMatches "/a" (Text.trim "/a") = true := by
    rw [show Text.trim "/a" = "/a" by decide]
    simp [resourceMatches]
  refine ⟨_, List.mem_cons_self, _, List.mem_singleton_self _, rfl, by decide, ?_, ?_, by simp⟩ <;>
    exact ⟨"/a", by simp, hmatch⟩

theorem readOnlySet_does_not_deny :
    ¬ SomeRuleFires .deny readOnlySet ⟨"/a", some "read", ⟨"alice", fun _ => none⟩⟩ := by
  rintro ⟨policy, hpolicy, rule, hrule, heffect, hfires⟩
  have hcovers := hfires.covers
  simp only [readOnlySet, List.mem_cons, List.not_mem_nil, or_false] at hpolicy
  rcases hpolicy with rfl | rfl <;> rw [List.mem_singleton] at hrule <;> subst hrule
  · cases heffect
  · exact absurd hcovers (by decide)

theorem decide_permits_read_in_both_orders :
    (∃ d, (DecisionPoint.new ⟨fun _ => some readOnlySet, 1⟩ openDirectory .deny).decide
      ⟨"svc", "c", "/a", some "read", "alice"⟩ = .ok d ∧ d.effect = .permit) ∧
    Option.Rel (Reordered Policy.AlikeUpToOrder) (some readOnlySet) (some readOnlySetReordered) ∧
    ((DecisionPoint.new ⟨fun _ => some readOnlySetReordered, 1⟩ openDirectory .deny).decide
      ⟨"svc", "c", "/a", some "read", "alice"⟩).map Decision.effect =
    ((DecisionPoint.new ⟨fun _ => some readOnlySet, 1⟩ openDirectory .deny).decide
      ⟨"svc", "c", "/a", some "read", "alice"⟩).map Decision.effect := by
  have hrel := Option.Rel.some readOnlySet_reordered
  refine ⟨?_, hrel, (decide_permits_iff ⟨fun _ => some readOnlySet, 1⟩ openDirectory .deny _).2
    ⟨fun _ => some readOnlySetReordered, 1⟩ rfl hrel⟩
  refine (decide_permits_iff ⟨fun _ => some readOnlySet, 1⟩ openDirectory .deny _).1.mpr ?_
  exact ⟨by decide, by decide, by decide, _, rfl, by decide, readOnlySet, rfl, readOnlySet_permits,
    readOnlySet_does_not_deny⟩

end AccessDecision
