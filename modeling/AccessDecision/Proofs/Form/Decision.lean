import AccessDecision.Form.Decision
import AccessDecision.Proofs.Form.Rewriting

/-!
# Decisions survive writing

Any decision can be written and read again, whatever is in it (`Decision.roundTrips`).  The members of the
verdict stand beside the message and the trail, and reading tells them apart by their names alone: the message
and the trail are found among all members, and whatever has another name is read as the verdict
(`Decision.ofDatum?_members`).
-/

namespace AccessDecision

variable {dialect : Dialect}

/-! ## Audit trails -/

theorem TargetMatch.roundTrips (dialect : Dialect) :
    RoundTrips 1 (TargetMatch.ofDatum? dialect) TargetMatch.toDatum := by
  refine RoundTrips.record (by decide) (fun _ => rfl) (fun pair => ?_) fun pair => ?_
  · simp
  · simp [Slot.required, RoundTrips.text.reread]

theorem policyRules_roundTrips (dialect : Dialect) : RoundTrips 2 (policyRules? dialect) policyRulesDatum where
  plain entry := by simp [policyRulesDatum, Datum.isPlain_list, RoundTrips.texts.plain]
  depth entry := by simp [policyRulesDatum, Datum.depth_list_le, RoundTrips.texts.depth]
  reread entry := by simp [policyRulesDatum, policyRules?, Datum.text?, RoundTrips.texts.reread]

/-- Any trail can be written and read again, whether or not its lists agree with each other. -/
theorem AuditTrail.roundTrips (dialect : Dialect) :
    RoundTrips 4 (AuditTrail.ofDatum? dialect) AuditTrail.toDatum := by
  have hrules := (policyRules_roundTrips dialect).list
  have hmatched := (TargetMatch.roundTrips dialect).list
  refine RoundTrips.record (by decide) (fun _ => rfl) (fun trail => ?_) fun trail => ?_
  · have hids : ∀ ids, (textsDatum ids).depth ≤ 3 := fun ids =>
      Nat.le_trans (RoundTrips.texts.depth ids) (by decide)
    have hpairs : (Datum.list (trail.matchedTargets.map TargetMatch.toDatum)).depth ≤ 3 :=
      Nat.le_trans (hmatched.depth trail.matchedTargets) (by decide)
    simp [RoundTrips.texts.plain, hids, hrules.plain, hrules.depth, hmatched.plain, hpairs]
  · simp [Slot.required, RoundTrips.texts.reread, hrules.reread, hmatched.reread]

/-! ## Verdicts -/

theorem DefaultReason.ofDatum?_toDatum (dialect : Dialect) (reason : DefaultReason) :
    DefaultReason.ofDatum? dialect reason.toDatum = some reason := by
  cases reason <;> rfl

/-- The members of a verdict spell it. -/
theorem Verdict.ofTagged_members (dialect : Dialect) (verdict : Verdict) :
    Verdict.ofTagged dialect (.named verdict.members) = some verdict := by
  cases verdict with
  | permit => rfl
  | deny => rfl
  | indeterminate default reason =>
    show ((Effect.ofDatum? .tagged default.toDatum).bind fun default =>
      (DefaultReason.ofDatum? .tagged reason.toDatum).bind fun reason =>
        some (Verdict.indeterminate default reason)) = _
    rw [(Effect.roundTrips .tagged).reread, DefaultReason.ofDatum?_toDatum]
    rfl

theorem Verdict.isPlain_members (verdict : Verdict) : ∀ member ∈ verdict.members, member.2.isPlain = true := by
  cases verdict <;> simp [Verdict.members, Effect.toDatum, DefaultReason.toDatum]

theorem Verdict.depth_members (verdict : Verdict) : ∀ member ∈ verdict.members, member.2.depth = 0 := by
  cases verdict <;> simp [Verdict.members, Effect.toDatum, DefaultReason.toDatum]

/-- No member of a verdict has the name of another field of a decision. -/
theorem Verdict.names_members (verdict : Verdict) :
    ∀ member ∈ verdict.members, member.1 ≠ "message" ∧ member.1 ≠ "audit" := by
  cases verdict <;> simp [Verdict.members]

/-! ## Decisions -/

section Members

variable {others : List (String × Datum)} {message audit : Datum}

theorem filter_eq_nil_of_names {field : String} (h : ∀ member ∈ others, member.1 ≠ field) :
    others.filter (·.1 == field) = [] := by
  simpa using fun name value hmember => h (name, value) hmember

/-- **A decision is read from its message, its trail and everything else.** -/
theorem Decision.ofDatum?_members (hnames : ∀ member ∈ others, member.1 ≠ "message" ∧ member.1 ≠ "audit")
    (hreadable : Datum.membersReadable others = true) :
    Decision.ofDatum? dialect (.object (others ++ [("message", message), ("audit", audit)])) =
      message.text?.bind fun message => (AuditTrail.ofDatum? dialect audit).bind fun audit =>
        (Verdict.ofTagged .tagged (.named others)).map fun verdict => ⟨verdict, message, audit⟩ := by
  have hmessage : namedSlot? (others ++ [("message", message), ("audit", audit)]) "message" =
      some (.given message) := by
    unfold namedSlot?
    rw [List.filter_append, filter_eq_nil_of_names fun member hmember => (hnames member hmember).1]
    rfl
  have haudit : namedSlot? (others ++ [("message", message), ("audit", audit)]) "audit" = some (.given audit) := by
    unfold namedSlot?
    rw [List.filter_append, filter_eq_nil_of_names fun member hmember => (hnames member hmember).2]
    rfl
  -- what is left for the verdict is what is neither the message nor the trail
  have hothers : (others ++ [("message", message), ("audit", audit)]).filter
      (fun member => member.1 != "message" && member.1 != "audit") = others := by
    rw [List.filter_append, List.filter_eq_self.mpr (by simpa using hnames)]
    exact List.append_nil others
  unfold Decision.ofDatum?
  simp only [Datum.members?, Option.bind_eq_bind, Option.bind_some, hmessage, haudit, Slot.required, hothers,
    hreadable, if_true]
  cases Verdict.ofTagged .tagged (.named others) <;> rfl

end Members

/-- Any decision can be written and read again, whatever is in it. -/
theorem Decision.roundTrips (dialect : Dialect) : RoundTrips 5 (Decision.ofDatum? dialect) Decision.toDatum where
  plain decision := by
    have haudit := (AuditTrail.roundTrips dialect).plain decision.audit
    refine Datum.isPlain_object.mpr fun member hmember => ?_
    rcases List.mem_append.mp hmember with hmember | hmember
    · exact decision.verdict.isPlain_members member hmember
    · simp only [List.mem_pair] at hmember
      rcases hmember with rfl | rfl
      · rfl
      · exact haudit
  depth decision := by
    have haudit := (AuditTrail.roundTrips dialect).depth decision.audit
    refine Datum.depth_object_le.mpr fun member hmember => ?_
    rcases List.mem_append.mp hmember with hmember | hmember
    · rw [decision.verdict.depth_members member hmember]
      exact Nat.zero_le 4
    · simp only [List.mem_pair] at hmember
      rcases hmember with rfl | rfl
      · exact Nat.zero_le 4
      · exact haudit
  reread decision := by
    have hreadable : Datum.membersReadable decision.verdict.members = true :=
      Datum.membersReadable_of_membersPlain _ (Datum.isPlain_object.mpr decision.verdict.isPlain_members)
    unfold Decision.toDatum
    rw [Decision.ofDatum?_members decision.verdict.names_members hreadable, Verdict.ofTagged_members,
      (AuditTrail.roundTrips dialect).reread]
    rfl

theorem Decision.depth_toDatum_le (decision : Decision) : decision.toDatum.depth ≤ Datum.Json.maxDepth :=
  Nat.le_trans ((Decision.roundTrips .json).depth decision) (by decide)

open Datum.Json in
/-- **Decisions survive JSON.** Whatever its verdict, its message and its trail are, a decision is loaded again
from its compact text and from its pretty one. -/
theorem Decision.load?_written (decision : Decision) :
    load? (Decision.ofDatum? .json) (compact decision.toDatum) = some decision ∧
      load? (Decision.ofDatum? .json) (pretty decision.toDatum) = some decision := by
  have h := Decision.roundTrips .json
  exact ⟨load?_of_read? h (read?_compact (h.plain decision) decision.depth_toDatum_le),
    load?_of_read? h (read?_pretty (h.plain decision) decision.depth_toDatum_le)⟩

end AccessDecision
