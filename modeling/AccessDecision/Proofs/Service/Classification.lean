import AccessDecision.Pattern.Size
import AccessDecision.Proofs.Service.Permit

/-!
# Errors and defaults

A query is answered by an error, by a default or by a rule.  `Query.Refused` says which error a query gives, and
`FallsThrough` for which reason the default applies to a query of a known subject; neither mentions how a
decision is computed.  `decide_classified` says that a decision point follows them: the names of a query come
before its subject, the subject before the store, and the size of the store before its policy sets.
-/

namespace AccessDecision

/-! ## Definitions -/

/-- None of the names that a query needs is empty. -/
structure Query.IsComplete (query : Query) : Prop where
  requester : query.requester ≠ ""
  resource : query.resource ≠ ""
  subjectId : query.subjectId ≠ ""

/-- Why a query is not decided: the first of its names that is empty, or else what the directory says of its
subject. -/
inductive Query.Refused (sessions : SessionDirectory) (query : Query) : DecisionError → Prop where
  | requester : query.requester = "" → Refused sessions query (.invalidQuery "requester")
  | resource : query.requester ≠ "" → query.resource = "" → Refused sessions query (.invalidQuery "resource")
  | subjectId : query.requester ≠ "" → query.resource ≠ "" → query.subjectId = "" →
    Refused sessions query (.invalidQuery "subject_id")
  | unknownSession {subject : String} : query.IsComplete →
    sessions.lookup query.subjectId = .error (.unknownSession subject) →
    Refused sessions query (.unknownSession subject)
  | sessionDirectory {reason : String} : query.IsComplete →
    sessions.lookup query.subjectId = .error (.unavailable reason) →
      Refused sessions query (.sessionDirectory reason)

/-- Why the default applies to a query of a known subject. -/
inductive FallsThrough [PatternLimit] (store : PolicyStore) (query : Query) (principal : Principal) :
    DefaultReason → Prop where
  /-- The store says that it is empty, whatever policy sets it has. -/
  | emptyPolicyStore : store.size = 0 → FallsThrough store query principal .emptyPolicyStore
  /-- The requester has no policy set, or an empty one. -/
  | noPolicySet : store.size ≠ 0 →
    store.policies query.requester = none ∨ store.policies query.requester = some [] →
    FallsThrough store query principal .noPolicySet
  /-- The requester has policies, and none of their rules fires. -/
  | noMatchingRule {policies : List Policy} : store.size ≠ 0 → store.policies query.requester = some policies →
    policies ≠ [] →
    (∀ policy ∈ policies, ∀ rule ∈ policy.rules, ¬ rule.Fires policy ⟨query.resource, query.action, principal⟩) →
    FallsThrough store query principal .noMatchingRule

/-! ## Errors -/

section Errors

variable {store : PolicyStore} {sessions : SessionDirectory} {defaultMode : Effect} {query : Query}
  {e : DecisionError}

theorem isComplete_iff : query.IsComplete ↔ query.emptyField? = none := by
  rw [Query.emptyField?_eq_none_iff]
  exact ⟨fun h => ⟨h.requester, h.resource, h.subjectId⟩, fun h => ⟨h.1, h.2.1, h.2.2⟩⟩

theorem refused_iff_of_emptyField {field : String} (h : query.emptyField? = some field) :
    query.Refused sessions e ↔ e = .invalidQuery field := by
  -- an incomplete query is refused for its field, whatever a lookup would say
  have hcomplete : ¬ query.IsComplete := by simp [isComplete_iff, h]
  simp only [Query.emptyField?, String.isEmpty_iff] at h
  constructor
  · intro hrefused
    cases hrefused with
    | requester h1 => simp_all
    | resource h1 h2 => simp_all
    | subjectId h1 h2 h3 => simp_all
    | unknownSession hc _ => exact absurd hc hcomplete
    | sessionDirectory hc _ => exact absurd hc hcomplete
  · rintro rfl
    split_ifs at h with h1 h2 h3
    · cases h
      exact .requester h1
    · cases h
      exact .resource h1 h2
    · cases h
      exact .subjectId h1 h2 h3

theorem refused_iff_of_isComplete (h : query.IsComplete) : query.Refused sessions e ↔
    ∃ failure, sessions.lookup query.subjectId = .error failure ∧ e = failure.toDecisionError := by
  constructor
  · intro hrefused
    cases hrefused with
    | requester h1 => exact absurd h1 h.requester
    | resource _ h2 => exact absurd h2 h.resource
    | subjectId _ _ h3 => exact absurd h3 h.subjectId
    | unknownSession _ hlookup => exact ⟨_, hlookup, rfl⟩
    | sessionDirectory _ hlookup => exact ⟨_, hlookup, rfl⟩
  · rintro ⟨failure, hlookup, rfl⟩
    cases failure with
    | unknownSession subject => exact .unknownSession h hlookup
    | unavailable reason => exact .sessionDirectory h hlookup

/-- A query gives an error if and only if it is refused with it. -/
theorem decide_eq_error_iff [PatternLimit] :
    (DecisionPoint.new store sessions defaultMode).decide query = .error e ↔ query.Refused sessions e := by
  cases hfield : query.emptyField? with
  | some field =>
    rw [decide_of_emptyField hfield, refused_iff_of_emptyField hfield, Except.error.injEq]
    exact eq_comm
  | none =>
    rw [refused_iff_of_isComplete (isComplete_iff.mpr hfield)]
    cases hlookup : sessions.lookup query.subjectId with
    | error failure =>
      rw [decide_of_lookup_error hfield hlookup]
      simp [eq_comm]
    | ok principal =>
      rw [decide_of_lookup_ok hfield hlookup]
      simp

end Errors

/-! ## Defaults -/

section Defaults

variable [PatternLimit] {store : PolicyStore} {query : Query} {principal : Principal} {effect default : Effect}
  {reason : DefaultReason}
  {policies : List Policy} {request : Request}

/-- A policy set leaves a request to the default if and only if none of its rules fires. -/
theorem verdict_eq_indeterminate_iff (h : policies ≠ []) :
    (decidePolicies (some policies) request default).verdict = .indeterminate effect reason ↔
      effect = default ∧ reason = .noMatchingRule ∧
        ∀ policy ∈ policies, ∀ rule ∈ policy.rules, ¬ rule.Fires policy request := by
  rw [← walk_none_iff, decidePolicies_of_ne_nil h, Outcome.verdict_toDecision]
  cases hdecision : (walk policies request).decision with
  | none => simp [eq_comm]
  | some settled => cases settled <;> simp

/-- Where no rule fires a walk records no pair. -/
theorem matchedTargets_of_quiet (h : ∀ policy ∈ policies, ∀ rule ∈ policy.rules, ¬ rule.Fires policy request) :
    (walk policies request).trail.matchedTargets = [] := by
  have hquiet : ∀ v ∈ visits policies request, v.isSatisfied request.principal = false := by
    intro v hv
    rw [← Bool.not_eq_true]
    intro hs
    obtain ⟨hpolicy, hrule, hfires⟩ := Visit.fires hv hs
    exact h v.policy hpolicy v.rule hrule hfires
  rw [walk_eq_flatWalk]
  show pairsAfter _ _ _ = _
  have hfind : (visits policies request).find? (Visit.denies request.principal) = none :=
    List.find?_eq_none.mpr fun v hv => by simp [denies_eq_false_of_not_satisfied (hquiet v hv)]
  have hfilter : (visits policies request).filter (Visit.isSatisfied request.principal) = [] :=
    List.filter_eq_nil_iff.mpr fun v hv => by simp [hquiet v hv]
  simp [pairsAfter, hfind, hfilter, Walk.start, AuditTrail.empty]

theorem fallsThrough_of_empty (h : store.size = 0) :
    FallsThrough store query principal reason ↔ reason = .emptyPolicyStore := by
  constructor
  · intro hfalls
    cases hfalls with
    | emptyPolicyStore _ => rfl
    | noPolicySet hs _ => exact absurd h hs
    | noMatchingRule hs _ _ _ => exact absurd h hs
  · rintro rfl
    exact .emptyPolicyStore h

theorem fallsThrough_of_no_policies (h : store.size ≠ 0)
    (hset : store.policies query.requester = none ∨ store.policies query.requester = some []) :
    FallsThrough store query principal reason ↔ reason = .noPolicySet := by
  constructor
  · intro hfalls
    cases hfalls with
    | emptyPolicyStore hs => exact absurd hs h
    | noPolicySet _ _ => rfl
    | noMatchingRule _ hsome hne _ => rcases hset with hset | hset <;> simp_all
  · rintro rfl
    exact .noPolicySet h hset

theorem fallsThrough_of_policies (h : store.size ≠ 0) (hset : store.policies query.requester = some policies)
    (hne : policies ≠ []) : FallsThrough store query principal reason ↔ reason = .noMatchingRule ∧
      ∀ policy ∈ policies, ∀ rule ∈ policy.rules,
        ¬ rule.Fires policy ⟨query.resource, query.action, principal⟩ := by
  constructor
  · intro hfalls
    cases hfalls with
    | emptyPolicyStore hs => exact absurd hs h
    | noPolicySet _ hnone => rcases hnone with hnone | hnone <;> simp_all
    | noMatchingRule _ hsome _ hquiet =>
      obtain rfl := Option.some.inj (hset.symm.trans hsome)
      exact ⟨rfl, hquiet⟩
  · rintro ⟨rfl, hquiet⟩
    exact .noMatchingRule h hset hne hquiet

/-- **The default applies exactly where a query falls through**, it is a denial, and what falls through has no
pair in its trail. -/
theorem indeterminate_iff_fallsThrough {d : Decision}
    (hd : d = if store.size = 0 then DecisionPoint.emptyStoreDecision
      else decidePolicies (store.policies query.requester) ⟨query.resource, query.action, principal⟩ .deny) :
    (∀ effect reason, d.verdict = .indeterminate effect reason ↔
      effect = .deny ∧ FallsThrough store query principal reason) ∧
    ∀ reason, FallsThrough store query principal reason →
      d.audit.matchedTargets = [] ∧ (reason ≠ .noMatchingRule → d.audit = .empty) := by
  -- the ways to fall through, in the order in which the decision point meets them
  by_cases hsize : store.size = 0
  · rw [if_pos hsize] at hd
    subst hd
    simp only [fallsThrough_of_empty hsize]
    exact ⟨fun effect reason => by simp [DecisionPoint.emptyStoreDecision, eq_comm],
      fun _ _ => ⟨rfl, fun _ => rfl⟩⟩
  rw [if_neg hsize] at hd
  by_cases hset : store.policies query.requester = none ∨ store.policies query.requester = some []
  · have hdefault : d = ⟨.indeterminate .deny .noPolicySet, noPolicyMessage .deny, .empty⟩ := by
      rcases hset with hset | hset <;> rw [hset] at hd <;> exact hd
    simp only [fallsThrough_of_no_policies hsize hset]
    subst hdefault
    exact ⟨fun effect reason => by simp [eq_comm], fun _ _ => ⟨rfl, fun _ => rfl⟩⟩
  · obtain ⟨policies, hsome, hne⟩ :
        ∃ policies, store.policies query.requester = some policies ∧ policies ≠ [] := by
      obtain ⟨hnone, hnil⟩ := not_or.mp hset
      obtain ⟨policies, hsome⟩ := Option.ne_none_iff_exists'.mp hnone
      exact ⟨policies, hsome, fun h => hnil (h ▸ hsome)⟩
    rw [hsome] at hd
    simp only [fallsThrough_of_policies hsize hsome hne]
    refine ⟨fun effect reason => hd ▸ verdict_eq_indeterminate_iff hne, ?_⟩
    rintro reason ⟨rfl, hquiet⟩
    rw [hd, decidePolicies_of_ne_nil hne, Outcome.audit_toDecision]
    exact ⟨matchedTargets_of_quiet hquiet, fun h => absurd rfl h⟩

end Defaults

/-- **Errors and defaults are classified completely.** A query gives an error if and only if it is refused, by
one of its names or else by the directory, whatever the store holds.  Any other query is decided, and the default
applies, as a denial and for the reason that the classification gives, if and only if the query falls through;
then no pair is recorded, and nothing at all unless there were rules.  In every other case a rule permits or
denies. -/
theorem decide_classified [PatternLimit] (store : PolicyStore) (sessions : SessionDirectory)
    (defaultMode : Effect) (query : Query) :
    (∀ e, (DecisionPoint.new store sessions defaultMode).decide query = .error e ↔ query.Refused sessions e) ∧
    ((∀ e, ¬ query.Refused sessions e) → ∃ d principal,
      (DecisionPoint.new store sessions defaultMode).decide query = .ok d ∧
      sessions.lookup query.subjectId = .ok principal ∧
      (∀ effect reason, d.verdict = .indeterminate effect reason ↔
        effect = .deny ∧ FallsThrough store query principal reason) ∧
      (∀ reason, FallsThrough store query principal reason →
        d.audit.matchedTargets = [] ∧ (reason ≠ .noMatchingRule → d.audit = .empty)) ∧
      ((∀ reason, ¬ FallsThrough store query principal reason) → d.verdict = .permit ∨ d.verdict = .deny)) := by
  refine ⟨fun e => decide_eq_error_iff, fun hrefused => ?_⟩
  have hfield : query.emptyField? = none := by
    rw [Option.eq_none_iff_forall_ne_some]
    exact fun field hfield => hrefused _ ((refused_iff_of_emptyField hfield).mpr rfl)
  cases hlookup : sessions.lookup query.subjectId with
  | error failure =>
    have hcomplete := isComplete_iff.mpr hfield
    exact absurd ((refused_iff_of_isComplete hcomplete).mpr ⟨failure, hlookup, rfl⟩) (hrefused _)
  | ok principal =>
    obtain ⟨d, hd⟩ : ∃ d, d = if store.size = 0 then DecisionPoint.emptyStoreDecision
        else decidePolicies (store.policies query.requester) ⟨query.resource, query.action, principal⟩ .deny :=
      ⟨_, rfl⟩
    have hanswer : (DecisionPoint.new store sessions defaultMode).decide query = .ok d :=
      (decide_of_lookup_ok hfield hlookup).trans (congrArg Except.ok hd.symm)
    obtain ⟨hverdict, haudit⟩ := indeterminate_iff_fallsThrough hd
    refine ⟨d, principal, hanswer, rfl, hverdict, haudit, fun hnone => ?_⟩
    cases hv : d.verdict with
    | permit => exact Or.inl rfl
    | deny => exact Or.inr rfl
    | indeterminate effect reason => exact absurd ((hverdict effect reason).mp hv).2 (hnone reason)

/-- A store that says that it is empty is believed, even if it has a policy set that permits everything. -/
theorem emptyPolicyStore_of_size :
    let store : PolicyStore := ⟨fun _ => some [⟨"P1", [".*"], [], [⟨"R1", none, [], .permit, none⟩]⟩], 0⟩
    let query := Query.new "mail" "1" "/x" "alice"
    (∀ e, ¬ query.Refused openDirectory e) ∧
      ∃ d, (DecisionPoint.new store openDirectory .permit).decide query = .ok d ∧
        d.verdict = .indeterminate .deny .emptyPolicyStore ∧ d.audit = .empty := by
  intro store query
  have hcomplete : query.IsComplete := ⟨by decide, by decide, by decide⟩
  have hrefused : ∀ e, ¬ query.Refused openDirectory e := by
    intro e h
    obtain ⟨failure, hlookup, -⟩ := (refused_iff_of_isComplete hcomplete).mp h
    cases hlookup
  obtain ⟨d, principal, hanswer, -, hverdict, haudit, -⟩ :=
    (decide_classified store openDirectory .permit query).2 hrefused
  have hfalls : FallsThrough store query principal .emptyPolicyStore := .emptyPolicyStore rfl
  exact ⟨hrefused, d, hanswer, (hverdict _ _).mpr ⟨rfl, hfalls⟩, (haudit _ hfalls).2 (by decide)⟩

end AccessDecision
