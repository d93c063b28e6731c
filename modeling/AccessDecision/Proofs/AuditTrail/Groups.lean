import AccessDecision.AuditTrail
import Mathlib.Data.List.Induction
import Mathlib.Data.List.Nodup

/-!
# Group targets

The groups of a trail are built pair by pair, and pairs of one group may be mixed with those of others in any
way. `groupTargets_eq` says what comes of it without the building: the policy targets in the order in which they
occur first, and under each of them its rule targets in the same order.  So the groups hold every recorded pair,
and each of them once (`groupTargets_partition`).
-/

namespace AccessDecision

/-! ## Definitions -/

/-- The rule targets that are paired with a policy target, each once, in the order of their first occurrence. -/
def ruleTargetsUnder (pairs : List TargetMatch) (policyTarget : String) : List String :=
  ((pairs.filter (·.policyTarget == policyTarget)).map (·.ruleTarget)).eraseDups

/-- The pairs that groups stand for. -/
def pairsIn (groups : List GroupTarget) : List TargetMatch :=
  groups.flatMap fun group => group.ruleTargets.map (⟨group.policyTarget, ·⟩)

/-! ## First occurrences -/

section Occurrences

variable {α : Type} [DecidableEq α]

theorem eraseDups_concat (xs : List α) (x : α) :
    (xs ++ [x]).eraseDups = if x ∈ xs then xs.eraseDups else xs.eraseDups ++ [x] := by
  rw [List.eraseDups_append]
  split_ifs with h <;> simp [List.removeAll, List.eraseDups_cons, h]

theorem nodup_eraseDups (xs : List α) : xs.eraseDups.Nodup := by
  induction xs using List.reverseRecOn with
  | nil => exact List.nodup_nil
  | append_singleton xs x ih =>
    rw [eraseDups_concat]
    split_ifs with h
    · exact ih
    · rw [← List.concat_eq_append]
      exact ih.concat (List.mem_eraseDups.not.mpr h)

end Occurrences

/-! ## Groups -/

section Groups

variable {pairs : List TargetMatch} {pair : TargetMatch} {targets : List String}
  {rules rules' : String → List String}

theorem mem_ruleTargetsUnder {policyTarget ruleTarget : String} :
    ruleTarget ∈ ruleTargetsUnder pairs policyTarget ↔ ⟨policyTarget, ruleTarget⟩ ∈ pairs := by
  unfold ruleTargetsUnder
  rw [List.mem_eraseDups, List.mem_map]
  constructor
  · rintro ⟨⟨p, r⟩, hmem, rfl⟩
    obtain ⟨hmem, hp⟩ := List.mem_filter.mp hmem
    rwa [← beq_iff_eq.mp hp]
  · intro hmem
    exact ⟨_, List.mem_filter.mpr ⟨hmem, beq_self_eq_true _⟩, rfl⟩

theorem ruleTargetsUnder_eq_nil_iff {policyTarget : String} :
    ruleTargetsUnder pairs policyTarget = [] ↔ policyTarget ∉ pairs.map (·.policyTarget) := by
  rw [List.eq_nil_iff_forall_not_mem]
  constructor
  · intro h hmem
    obtain ⟨⟨p, r⟩, hpair, rfl⟩ := List.mem_map.mp hmem
    exact h r (mem_ruleTargetsUnder.mpr hpair)
  · exact fun h r hr => h (List.mem_map.mpr ⟨_, mem_ruleTargetsUnder.mp hr, rfl⟩)

theorem ruleTargetsUnder_concat_of_ne {policyTarget : String} (h : policyTarget ≠ pair.policyTarget) :
    ruleTargetsUnder (pairs ++ [pair]) policyTarget = ruleTargetsUnder pairs policyTarget := by
  simp [ruleTargetsUnder, Ne.symm h]

theorem ruleTargetsUnder_concat_self :
    ruleTargetsUnder (pairs ++ [pair]) pair.policyTarget =
      if pair.ruleTarget ∈ ruleTargetsUnder pairs pair.policyTarget then ruleTargetsUnder pairs pair.policyTarget
      else ruleTargetsUnder pairs pair.policyTarget ++ [pair.ruleTarget] := by
  have hfilter : (pairs ++ [pair]).filter (·.policyTarget == pair.policyTarget) =
      pairs.filter (·.policyTarget == pair.policyTarget) ++ [pair] := by
    simp
  unfold ruleTargetsUnder
  rw [hfilter, List.map_append, List.map_singleton, eraseDups_concat]
  simp only [List.mem_eraseDups]

/-- The group that is there takes the pair, and the others stay as they are. -/
theorem addToGroups_of_mem (hnodup : targets.Nodup) (hmem : pair.policyTarget ∈ targets)
    (hother : ∀ p, p ≠ pair.policyTarget → rules' p = rules p)
    (hself : rules' pair.policyTarget = if pair.ruleTarget ∈ rules pair.policyTarget then rules pair.policyTarget
      else rules pair.policyTarget ++ [pair.ruleTarget]) :
    addToGroups pair (targets.map fun p => ⟨p, rules p⟩) = targets.map fun p => ⟨p, rules' p⟩ := by
  induction targets with
  | nil => cases hmem
  | cons target targets ih =>
    obtain ⟨hnew, hnodup⟩ := List.nodup_cons.mp hnodup
    rw [List.map_cons, List.map_cons, addToGroups]
    by_cases heq : target = pair.policyTarget
    · -- no policy target is listed twice, so none of the later groups is this one
      have hrest : ∀ p ∈ targets, GroupTarget.mk p (rules p) = ⟨p, rules' p⟩ := by
        intro p hp
        rw [hother p (heq ▸ ne_of_mem_of_not_mem hp hnew)]
      rw [if_pos heq, List.map_congr_left hrest, heq, hself]
      split_ifs <;> rfl
    · have hlater : pair.policyTarget ∈ targets := (List.mem_cons.mp hmem).resolve_left (Ne.symm heq)
      rw [if_neg heq, hother target heq, ih hnodup hlater]

theorem addToGroups_of_not_mem (hmem : pair.policyTarget ∉ targets) :
    addToGroups pair (targets.map fun p => ⟨p, rules p⟩) =
      (targets.map fun p => ⟨p, rules p⟩) ++ [⟨pair.policyTarget, [pair.ruleTarget]⟩] := by
  induction targets with
  | nil => rfl
  | cons target targets ih =>
    obtain ⟨hne, hmem⟩ := not_or.mp (List.mem_cons.not.mp hmem)
    rw [List.map_cons, addToGroups, if_neg (Ne.symm hne), ih hmem]
    rfl

/-- **The groups of a trail** are its policy targets with the rule targets that are paired with them, both without
repetitions and in the order of their first occurrence. -/
theorem AuditTrail.groupTargets_eq (trail : AuditTrail) :
    trail.groupTargets = (trail.matchedTargets.map (·.policyTarget)).eraseDups.map fun policyTarget =>
      ⟨policyTarget, ruleTargetsUnder trail.matchedTargets policyTarget⟩ := by
  unfold groupTargets
  induction trail.matchedTargets using List.reverseRecOn with
  | nil => rfl
  | append_singleton pairs pair ih =>
    rw [List.foldl_append, ih, List.map_append, List.map_singleton, eraseDups_concat, List.foldl_cons,
      List.foldl_nil]
    split_ifs with hmem
    · -- a known policy target: its group may grow, and the others stay
      exact addToGroups_of_mem (nodup_eraseDups _) (List.mem_eraseDups.mpr hmem)
        (fun p hp => ruleTargetsUnder_concat_of_ne hp) ruleTargetsUnder_concat_self
    · -- a new policy target: no pair before this one counts for its group
      have hself : ruleTargetsUnder (pairs ++ [pair]) pair.policyTarget = [pair.ruleTarget] := by
        rw [ruleTargetsUnder_concat_self, ruleTargetsUnder_eq_nil_iff.mpr hmem]
        rfl
      have hearlier : ∀ p ∈ (pairs.map (·.policyTarget)).eraseDups,
          GroupTarget.mk p (ruleTargetsUnder pairs p) = ⟨p, ruleTargetsUnder (pairs ++ [pair]) p⟩ := by
        intro p hp
        rw [ruleTargetsUnder_concat_of_ne (ne_of_mem_of_not_mem (List.mem_eraseDups.mp hp) hmem)]
      rw [addToGroups_of_not_mem (List.mem_eraseDups.not.mpr hmem), List.map_append, List.map_singleton, hself,
        List.map_congr_left hearlier]

/-! ## Pairs -/

theorem mem_pairsIn_groupTargets (trail : AuditTrail) :
    pair ∈ pairsIn trail.groupTargets ↔ pair ∈ trail.matchedTargets := by
  obtain ⟨policyTarget, ruleTarget⟩ := pair
  unfold pairsIn
  rw [trail.groupTargets_eq, List.flatMap_map]
  simp only [List.mem_flatMap, List.mem_map, TargetMatch.mk.injEq, mem_ruleTargetsUnder]
  constructor
  · rintro ⟨_, -, _, hmem, rfl, rfl⟩
    exact hmem
  · intro hmem
    exact ⟨policyTarget, List.mem_eraseDups.mpr (List.mem_map_of_mem hmem), ruleTarget, hmem, rfl, rfl⟩

theorem nodup_pairsIn_groupTargets (trail : AuditTrail) : (pairsIn trail.groupTargets).Nodup := by
  unfold pairsIn
  rw [trail.groupTargets_eq, List.flatMap_map, List.nodup_flatMap]
  constructor
  · intro policyTarget _
    exact (nodup_eraseDups _).map fun r r' h => (TargetMatch.mk.inj h).2
  · -- pairs of different groups differ in the policy target
    refine (nodup_eraseDups _).imp fun hne pair hpair hpair' => hne ?_
    obtain ⟨_, -, rfl⟩ := List.mem_map.mp hpair
    obtain ⟨_, -, heq⟩ := List.mem_map.mp hpair'
    exact (TargetMatch.mk.inj heq).1.symm

end Groups

/-- **Group targets are a partition of the recorded pairs.** There is one group for each policy target, in the
order of their first occurrence, and it holds the rule targets that are paired with it, each once and in the
order of their first occurrence.  No group is empty, and the groups hold each recorded pair once and no other
pair. -/
theorem AuditTrail.groupTargets_partition (trail : AuditTrail) :
    trail.groupTargets = ((trail.matchedTargets.map (·.policyTarget)).eraseDups.map fun policyTarget =>
        ⟨policyTarget,
          ((trail.matchedTargets.filter (·.policyTarget == policyTarget)).map (·.ruleTarget)).eraseDups⟩) ∧
      (∀ group ∈ trail.groupTargets, group.ruleTargets ≠ []) ∧
      ∀ pair, (pairsIn trail.groupTargets).count pair = if pair ∈ trail.matchedTargets then 1 else 0 := by
  refine ⟨trail.groupTargets_eq, fun group hgroup => ?_, fun pair => ?_⟩
  · rw [trail.groupTargets_eq] at hgroup
    obtain ⟨policyTarget, hmem, rfl⟩ := List.mem_map.mp hgroup
    exact ruleTargetsUnder_eq_nil_iff.not.mpr (not_not_intro (List.mem_eraseDups.mp hmem))
  · rw [(nodup_pairsIn_groupTargets trail).count]
    simp only [mem_pairsIn_groupTargets]

example : AuditTrail.groupTargets ⟨[], [], [], [⟨"/a", "/x"⟩, ⟨"/b", "/x"⟩, ⟨"/a", "/y"⟩, ⟨"/a", "/x"⟩]⟩ =
    [⟨"/a", ["/x", "/y"]⟩, ⟨"/b", ["/x"]⟩] := by decide

end AccessDecision
