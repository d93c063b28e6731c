import AccessDecision.Form.Query
import AccessDecision.Proofs.Form.Condition
import Mathlib.Data.List.Induction
import Mathlib.Data.String.Basic

/-!
# Policy documents survive rewriting

Rules, policies, policy documents and queries survive rewriting because each of their fields does.  A field that
was left out may be written, so a tree may become deeper by it, but never deeper than a few levels that each type
has anyway.

The services of a document are kept in the order of their names, so they are read back in the order in which they
are written (`PolicyDocument.ofList_services`).
-/

namespace AccessDecision

variable {dialect : Dialect} {d : Datum}

/-! ## Rules -/

theorem Effect.roundTrips (dialect : Dialect) : RoundTrips 0 (Effect.ofDatum? dialect) Effect.toDatum where
  plain _ := rfl
  depth _ := Nat.le_refl 0
  reread effect := by cases effect <;> rfl

/-- The fields of a rule as they are written. -/
def Rule.entries (rule : Rule) : List (String × Option Datum) :=
  [("rule_id", some (.text rule.ruleId)), ("targets", rule.targets.map textsDatum),
    ("actions", unlessEmpty rule.actions), ("effect", some rule.effect.toDatum),
    ("condition", rule.condition.map Condition.toDatum)]

theorem Rule.toDatum_eq (rule : Rule) : rule.toDatum = Datum.record rule.entries := by
  simp [Rule.toDatum, Datum.record, Rule.entries, member?]

theorem Rule.ofDatum?_eq_some {rule : Rule} : Rule.ofDatum? dialect d = some rule ↔
    ∃ ruleId targets actions effect condition,
      d.slots dialect Rule.fields = some [ruleId, targets, actions, effect, condition] ∧
        ruleId.required Datum.text? = some rule.ruleId ∧
        targets.orElse (nullable texts?) none = some rule.targets ∧
        actions.orElse texts? [] = some rule.actions ∧
        effect.required (Effect.ofDatum? dialect) = some rule.effect ∧
        condition.orElse (nullable (Condition.ofDatum? dialect)) none = some rule.condition := by
  unfold Rule.ofDatum?
  constructor
  · intro h
    obtain ⟨slots, hslots, h⟩ := Option.bind_eq_some_iff.mp h
    split at h
    · obtain ⟨ruleId, hruleId, h⟩ := Option.bind_eq_some_iff.mp h
      obtain ⟨targets, htargets, h⟩ := Option.bind_eq_some_iff.mp h
      obtain ⟨actions, hactions, h⟩ := Option.bind_eq_some_iff.mp h
      obtain ⟨effect, heffect, h⟩ := Option.bind_eq_some_iff.mp h
      obtain ⟨condition, hcondition, h⟩ := Option.bind_eq_some_iff.mp h
      obtain rfl := Option.some.inj h
      exact ⟨_, _, _, _, _, hslots, hruleId, htargets, hactions, heffect, hcondition⟩
    · cases h
  · rintro ⟨_, _, _, _, _, hslots, hruleId, htargets, hactions, heffect, hcondition⟩
    simp [hslots, hruleId, htargets, hactions, heffect, hcondition]

theorem Rule.survives (dialect : Dialect) : Survives 2 (Rule.ofDatum? dialect) Rule.toDatum := by
  have hruleId := Survives.text.required
  have htargets := Survives.texts.nullable
  have hactions := FieldSurvives.unlessEmpty
  have heffect := (Effect.roundTrips dialect).survives.required
  have hcondition := (Condition.survives dialect).nullable
  -- every entry that is written is plain and no deeper than the field that it was read from
  have hwritten : ∀ d rule, Rule.ofDatum? dialect d = some rule →
      rule.toDatum.isPlain = true ∧ rule.toDatum.depth ≤ max 2 d.depth := by
    intro d rule h
    obtain ⟨_, _, _, _, _, hslots, h₁, h₂, h₃, h₄, h₅⟩ := Rule.ofDatum?_eq_some.mp h
    rw [Rule.toDatum_eq]
    exact record_of_slots hslots (.cons (hruleId.entry (Nat.zero_le 1) h₁)
      (.cons (htargets.entry (Nat.le_refl 1) h₂) (.cons (hactions.entry (Nat.le_refl 1) h₃)
      (.cons (heffect.entry (Nat.zero_le 1) h₄) (.cons (hcondition.entry (Nat.zero_le 1) h₅) .nil)))))
  refine ⟨fun d rule h => (hwritten d rule h).1, fun d rule h => (hwritten d rule h).2, fun d rule h => ?_⟩
  obtain ⟨_, _, _, _, _, -, h₁, h₂, h₃, h₄, h₅⟩ := Rule.ofDatum?_eq_some.mp h
  have hnodup : (rule.entries.map (·.1)).Nodup := (by decide : Rule.fields.Nodup)
  rw [Rule.toDatum_eq]
  exact Rule.ofDatum?_eq_some.mpr ⟨_, _, _, _, _, slots_record hnodup, hruleId.reread _ _ h₁,
    htargets.reread _ _ h₂, hactions.reread _ _ h₃, heffect.reread _ _ h₄, hcondition.reread _ _ h₅⟩

/-! ## Policies -/

/-- The fields of a policy as they are written. -/
def Policy.entries (policy : Policy) : List (String × Option Datum) :=
  [("policy_id", some (.text policy.policyId)), ("targets", some (textsDatum policy.targets)),
    ("actions", unlessEmpty policy.actions), ("rules", some (.list (policy.rules.map Rule.toDatum)))]

theorem Policy.toDatum_eq (policy : Policy) : policy.toDatum = Datum.record policy.entries := by
  simp [Policy.toDatum, Datum.record, Policy.entries, member?]

theorem Policy.ofDatum?_eq_some {policy : Policy} : Policy.ofDatum? dialect d = some policy ↔
    ∃ policyId targets actions rules,
      d.slots dialect Policy.fields = some [policyId, targets, actions, rules] ∧
        policyId.required Datum.text? = some policy.policyId ∧
        targets.orElse texts? [] = some policy.targets ∧
        actions.orElse texts? [] = some policy.actions ∧
        rules.orElse (listOf (Rule.ofDatum? dialect)) [] = some policy.rules := by
  unfold Policy.ofDatum?
  constructor
  · intro h
    obtain ⟨slots, hslots, h⟩ := Option.bind_eq_some_iff.mp h
    split at h
    · obtain ⟨policyId, hpolicyId, h⟩ := Option.bind_eq_some_iff.mp h
      obtain ⟨targets, htargets, h⟩ := Option.bind_eq_some_iff.mp h
      obtain ⟨actions, hactions, h⟩ := Option.bind_eq_some_iff.mp h
      obtain ⟨rules, hrules, h⟩ := Option.bind_eq_some_iff.mp h
      obtain rfl := Option.some.inj h
      exact ⟨_, _, _, _, hslots, hpolicyId, htargets, hactions, hrules⟩
    · cases h
  · rintro ⟨_, _, _, _, hslots, hpolicyId, htargets, hactions, hrules⟩
    simp [hslots, hpolicyId, htargets, hactions, hrules]

theorem Policy.survives (dialect : Dialect) : Survives 4 (Policy.ofDatum? dialect) Policy.toDatum := by
  have hpolicyId := Survives.text.required
  have htargets : FieldSurvives 1 (Slot.orElse texts? []) fun targets => some (textsDatum targets) :=
    Survives.texts.always rfl (Nat.le_refl 1)
  have hactions := FieldSurvives.unlessEmpty
  have hrules : FieldSurvives 3 (Slot.orElse (listOf (Rule.ofDatum? dialect)) [])
      fun rules => some (.list (rules.map Rule.toDatum)) :=
    (Rule.survives dialect).list.always rfl (by decide)
  -- as for rules, but targets and rules are written even when they are empty
  have hwritten : ∀ d policy, Policy.ofDatum? dialect d = some policy →
      policy.toDatum.isPlain = true ∧ policy.toDatum.depth ≤ max 4 d.depth := by
    intro d policy h
    obtain ⟨_, _, _, _, hslots, h₁, h₂, h₃, h₄⟩ := Policy.ofDatum?_eq_some.mp h
    rw [Policy.toDatum_eq]
    exact record_of_slots hslots (.cons (hpolicyId.entry (by decide) h₁) (.cons (htargets.entry (by decide) h₂)
      (.cons (hactions.entry (by decide) h₃) (.cons (hrules.entry (Nat.le_refl 3) h₄) .nil))))
  refine ⟨fun d policy h => (hwritten d policy h).1, fun d policy h => (hwritten d policy h).2,
    fun d policy h => ?_⟩
  obtain ⟨_, _, _, _, -, h₁, h₂, h₃, h₄⟩ := Policy.ofDatum?_eq_some.mp h
  have hnodup : (policy.entries.map (·.1)).Nodup := (by decide : Policy.fields.Nodup)
  rw [Policy.toDatum_eq]
  exact Policy.ofDatum?_eq_some.mpr ⟨_, _, _, _, slots_record hnodup, hpolicyId.reread _ _ h₁,
    htargets.reread _ _ h₂, hactions.reread _ _ h₃, hrules.reread _ _ h₄⟩

/-! ## Documents -/

section Services

variable {service : String} {policies : List Policy} {services : List (String × List Policy)}

/-- A service behind all others is put at the end. -/
theorem insertService_of_lt (h : ∀ entry ∈ services, entry.1 < service) :
    insertService service policies services = services ++ [(service, policies)] := by
  induction services with
  | nil => rfl
  | cons first rest ih =>
    obtain ⟨hfirst, hrest⟩ := List.forall_mem_cons.mp h
    unfold insertService
    rw [if_neg (ne_of_gt hfirst), if_neg (lt_asymm hfirst), ih hrest]
    rfl

theorem PolicyDocument.ofList_append (services : List (String × List Policy)) (service : String)
    (policies : List Policy) : PolicyDocument.ofList (services ++ [(service, policies)]) =
      (PolicyDocument.ofList services).insert service policies := by
  unfold PolicyDocument.ofList
  rw [List.foldl_append]
  rfl

theorem PolicyDocument.mem_of_mem_ofList {entry : String × List Policy}
    (h : entry ∈ (PolicyDocument.ofList services).services) : entry ∈ services := by
  induction services using List.reverseRecOn with
  | nil => exact h
  | append_singleton services last ih =>
    rw [PolicyDocument.ofList_append] at h
    rcases eq_or_mem_of_mem_insertService h with rfl | h
    · exact List.mem_append_right _ List.mem_cons_self
    · exact List.mem_append_left _ (ih h)

theorem PolicyDocument.services_ofList (h : InOrder services) :
    (PolicyDocument.ofList services).services = services := by
  induction services using List.reverseRecOn with
  | nil => rfl
  | append_singleton services last ih =>
    obtain ⟨hservices, -, hlast⟩ := List.pairwise_append.mp h
    rw [PolicyDocument.ofList_append, PolicyDocument.services_insert, ih hservices]
    exact insertService_of_lt fun entry hentry => hlast entry hentry last List.mem_cons_self

/-- **Services in order are kept as they are.** -/
theorem PolicyDocument.ofList_services (document : PolicyDocument) :
    PolicyDocument.ofList document.services = document :=
  PolicyDocument.ext (PolicyDocument.services_ofList document.inOrder)

/-- The policy sets of services as they are written. -/
def servicesDatum (services : List (String × List Policy)) : Datum :=
  .object (services.map fun (service, policies) => (service, .list (policies.map Policy.toDatum)))

/-- From what the policies of a service are read. -/
theorem exists_of_mem_services {slot : Slot Datum} (h : slot.orElse (services? dialect) [] = some services) :
    ∀ entry ∈ services, ∃ d, d.depth < slot.depth ∧ listOf (Policy.ofDatum? dialect) d = some entry.2 := by
  intro entry hentry
  cases slot with
  | given d =>
    obtain ⟨members, hmembers, h⟩ := Option.bind_eq_some_iff.mp h
    obtain ⟨⟨service, value⟩, hmember, h⟩ := exists_of_mem_mapM h entry hentry
    obtain ⟨policies, hpolicies, rfl⟩ := Option.map_eq_some_iff.mp h
    cases d with
    | object members' =>
      obtain rfl := Option.some.inj hmembers
      exact ⟨value, Datum.depth_lt_of_mem_object hmember, hpolicies⟩
    | _ => cases hmembers
  | unnamed | unlisted =>
    obtain rfl := Option.some.inj h
    exact absurd hentry List.not_mem_nil

/-- Whichever of the services that were read are kept, they survive. -/
theorem services_survive {slot : Slot Datum} {kept : List (String × List Policy)}
    (h : slot.orElse (services? dialect) [] = some services) (hkept : ∀ entry ∈ kept, entry ∈ services) :
    (servicesDatum kept).isPlain = true ∧ (servicesDatum kept).depth ≤ max 6 slot.depth ∧
      services? dialect (servicesDatum kept) = some kept := by
  have hpolicies := (Policy.survives dialect).list
  -- kept policies were listed in the document, below the list of the services
  have hread : ∀ entry ∈ kept, ∃ d, d.depth < slot.depth ∧ listOf (Policy.ofDatum? dialect) d = some entry.2 :=
    fun entry hentry => exists_of_mem_services h entry (hkept entry hentry)
  refine ⟨?_, ?_, ?_⟩
  · unfold servicesDatum
    rw [Datum.isPlain_object, List.forall_mem_map]
    intro entry hentry
    obtain ⟨d, -, hd⟩ := hread entry hentry
    exact hpolicies.plain d entry.2 hd
  · have hdepth : (servicesDatum kept).depth ≤ max 5 (slot.depth - 1) + 1 := by
      unfold servicesDatum
      rw [Datum.depth_object_le, List.forall_mem_map]
      intro entry hentry
      obtain ⟨d, hlt, hd⟩ := hread entry hentry
      have hle := hpolicies.depth d entry.2 hd
      show (Datum.list (entry.2.map Policy.toDatum)).depth ≤ _
      omega
    omega
  · refine mapM_map_eq_some fun entry hentry => ?_
    obtain ⟨d, -, hd⟩ := hread entry hentry
    show (listOf (Policy.ofDatum? dialect) (.list (entry.2.map Policy.toDatum))).map _ = _
    rw [hpolicies.reread d entry.2 hd]
    rfl

end Services

theorem PolicyDocument.toDatum_eq (document : PolicyDocument) :
    document.toDatum = Datum.record [("services", some (servicesDatum document.services))] := rfl

theorem PolicyDocument.ofDatum?_eq_some {document : PolicyDocument} :
    PolicyDocument.ofDatum? dialect d = some document ↔ ∃ slot services,
      d.slots dialect ["services"] = some [slot] ∧ slot.orElse (services? dialect) [] = some services ∧
        PolicyDocument.ofList services = document := by
  unfold PolicyDocument.ofDatum?
  constructor
  · intro h
    obtain ⟨slots, hslots, h⟩ := Option.bind_eq_some_iff.mp h
    split at h
    · obtain ⟨services, hservices, h⟩ := Option.bind_eq_some_iff.mp h
      exact ⟨_, services, hslots, hservices, Option.some.inj h⟩
    · cases h
  · rintro ⟨_, _, hslots, hservices, rfl⟩
    simp [hslots, hservices]

theorem PolicyDocument.survives (dialect : Dialect) :
    Survives 7 (PolicyDocument.ofDatum? dialect) PolicyDocument.toDatum := by
  have hwritten : ∀ d document, PolicyDocument.ofDatum? dialect d = some document →
      document.toDatum.isPlain = true ∧ document.toDatum.depth ≤ max 7 d.depth := by
    intro d document h
    obtain ⟨slot, services, hslots, hservices, rfl⟩ := PolicyDocument.ofDatum?_eq_some.mp h
    obtain ⟨hplain, hdepth, -⟩ := services_survive hservices fun _ => PolicyDocument.mem_of_mem_ofList
    rw [PolicyDocument.toDatum_eq]
    refine record_of_slots hslots (.cons ?_ .nil)
    rintro _ ⟨⟩
    exact ⟨hplain, hdepth⟩
  refine ⟨fun d document h => (hwritten d document h).1, fun d document h => (hwritten d document h).2,
    fun d document h => ?_⟩
  obtain ⟨slot, services, -, hservices, rfl⟩ := PolicyDocument.ofDatum?_eq_some.mp h
  obtain ⟨-, -, hreread⟩ := services_survive hservices fun _ => PolicyDocument.mem_of_mem_ofList
  rw [PolicyDocument.toDatum_eq]
  exact PolicyDocument.ofDatum?_eq_some.mpr ⟨_, _, slots_record (List.nodup_singleton _), hreread,
    PolicyDocument.ofList_services _⟩

/-! ## Queries -/

/-- The fields of a query as they are written. -/
def Query.entries (query : Query) : List (String × Option Datum) :=
  [("requester", some (.text query.requester)), ("correlation_id", some (.text query.correlationId)),
    ("resource", some (.text query.resource)), ("action", query.action.map Datum.text),
    ("subject_id", some (.text query.subjectId))]

theorem Query.toDatum_eq (query : Query) : query.toDatum = Datum.record query.entries := by
  simp [Query.toDatum, Datum.record, Query.entries, member?]

theorem Query.ofDatum?_eq_some {query : Query} : Query.ofDatum? dialect d = some query ↔
    ∃ requester correlationId resource action subjectId,
      d.slots dialect Query.fields = some [requester, correlationId, resource, action, subjectId] ∧
        requester.required Datum.text? = some query.requester ∧
        correlationId.required Datum.text? = some query.correlationId ∧
        resource.required Datum.text? = some query.resource ∧
        action.orElse (nullable Datum.text?) none = some query.action ∧
        subjectId.required Datum.text? = some query.subjectId := by
  unfold Query.ofDatum?
  constructor
  · intro h
    obtain ⟨slots, hslots, h⟩ := Option.bind_eq_some_iff.mp h
    split at h
    · obtain ⟨requester, hrequester, h⟩ := Option.bind_eq_some_iff.mp h
      obtain ⟨correlationId, hcorrelationId, h⟩ := Option.bind_eq_some_iff.mp h
      obtain ⟨resource, hresource, h⟩ := Option.bind_eq_some_iff.mp h
      obtain ⟨action, haction, h⟩ := Option.bind_eq_some_iff.mp h
      obtain ⟨subjectId, hsubjectId, h⟩ := Option.bind_eq_some_iff.mp h
      obtain rfl := Option.some.inj h
      exact ⟨_, _, _, _, _, hslots, hrequester, hcorrelationId, hresource, haction, hsubjectId⟩
    · cases h
  · rintro ⟨_, _, _, _, _, hslots, hrequester, hcorrelationId, hresource, haction, hsubjectId⟩
    simp [hslots, hrequester, hcorrelationId, hresource, haction, hsubjectId]

theorem Query.survives (dialect : Dialect) : Survives 1 (Query.ofDatum? dialect) Query.toDatum := by
  have htext := Survives.text.required
  have haction := Survives.text.nullable
  have hwritten : ∀ d query, Query.ofDatum? dialect d = some query →
      query.toDatum.isPlain = true ∧ query.toDatum.depth ≤ max 1 d.depth := by
    intro d query h
    obtain ⟨_, _, _, _, _, hslots, h₁, h₂, h₃, h₄, h₅⟩ := Query.ofDatum?_eq_some.mp h
    have hle := Nat.le_refl 0
    rw [Query.toDatum_eq]
    exact record_of_slots hslots (.cons (htext.entry hle h₁) (.cons (htext.entry hle h₂)
      (.cons (htext.entry hle h₃) (.cons (haction.entry hle h₄) (.cons (htext.entry hle h₅) .nil)))))
  refine ⟨fun d query h => (hwritten d query h).1, fun d query h => (hwritten d query h).2, fun d query h => ?_⟩
  obtain ⟨_, _, _, _, _, -, h₁, h₂, h₃, h₄, h₅⟩ := Query.ofDatum?_eq_some.mp h
  have hnodup : (query.entries.map (·.1)).Nodup := (by decide : Query.fields.Nodup)
  rw [Query.toDatum_eq]
  exact Query.ofDatum?_eq_some.mpr ⟨_, _, _, _, _, slots_record hnodup, htext.reread _ _ h₁, htext.reread _ _ h₂,
    htext.reread _ _ h₃, haction.reread _ _ h₄, htext.reread _ _ h₅⟩

end AccessDecision
