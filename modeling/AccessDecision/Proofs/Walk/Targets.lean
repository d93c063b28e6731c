import AccessDecision.Proofs.Text.Trimming
import AccessDecision.Proofs.Walk.Lockstep
import Mathlib.Data.List.Induction
import Mathlib.Data.List.Nodup

/-!
# Normalized targets

A target list is read trimmed and without repetitions, in the order in which its trimmed members occur first.
Such a list is its own normal form (`normalizeTargets_of_isTrimmed`), so a walk cannot tell a policy set from the
set with normalized lists: both are walked in lockstep (`Policy.inStep_normalize`).
-/

namespace AccessDecision

open Text (IsTrimmed IsTrimOf isTrimmed_trim isTrimOf_iff trim trim_of_isTrimmed)

/-! ## Definitions -/

/-- A rule whose own targets are normalized, if it declares any. -/
def Rule.normalize (rule : Rule) : Rule := { rule with targets := rule.targetResources }

/-- A policy whose targets and those of its rules are normalized. -/
def Policy.normalize (policy : Policy) : Policy :=
  { policy with targets := policy.targetResources, rules := policy.rules.map Rule.normalize }

/-! ## Target lists -/

section Targets

variable {targets : List String} {t : String}

theorem normalizeTargets_concat (targets : List String) (target : String) :
    normalizeTargets (targets ++ [target]) =
      if trim target ∈ normalizeTargets targets then normalizeTargets targets
      else normalizeTargets targets ++ [trim target] := by
  unfold normalizeTargets
  rw [List.foldl_append]
  rfl

theorem isTrimmed_of_mem_normalizeTargets (h : t ∈ normalizeTargets targets) : IsTrimmed t := by
  obtain ⟨target, -, rfl⟩ := mem_normalizeTargets.mp h
  exact isTrimmed_trim target

theorem nodup_normalizeTargets (targets : List String) : (normalizeTargets targets).Nodup := by
  induction targets using List.reverseRecOn with
  | nil => exact List.nodup_nil
  | append_singleton targets target ih =>
    rw [normalizeTargets_concat]
    split_ifs with hmem
    · exact ih
    · rw [← List.concat_eq_append]
      exact ih.concat hmem

/-- The normalized targets stand in the order of their first occurrences. -/
theorem pairwise_normalizeTargets (targets : List String) :
    (normalizeTargets targets).Pairwise fun s t => (targets.map trim).idxOf s < (targets.map trim).idxOf t := by
  induction targets using List.reverseRecOn with
  | nil => exact .nil
  | append_singleton targets target ih =>
    have hmem : ∀ t, t ∈ normalizeTargets targets ↔ t ∈ targets.map trim := by
      intro t
      rw [mem_normalizeTargets, List.mem_map]
      simp only [eq_comm]
    -- a target that is listed already keeps its first occurrence
    have hfirst : ∀ t ∈ normalizeTargets targets,
        ((targets ++ [target]).map trim).idxOf t = (targets.map trim).idxOf t := by
      intro t ht
      rw [List.map_append, List.idxOf_append_of_mem ((hmem t).mp ht)]
    have hearlier : (normalizeTargets targets).Pairwise fun s t =>
        ((targets ++ [target]).map trim).idxOf s < ((targets ++ [target]).map trim).idxOf t := by
      refine ih.imp_of_mem fun hs ht hlt => ?_
      rwa [hfirst _ hs, hfirst _ ht]
    rw [normalizeTargets_concat]
    split_ifs with hnew
    · exact hearlier
    · refine List.pairwise_append.mpr ⟨hearlier, List.pairwise_singleton _ _, ?_⟩
      intro s hs t ht
      obtain rfl := List.mem_singleton.mp ht
      rw [hfirst s hs, List.map_append, List.idxOf_append_of_notMem ((hmem _).not.mp hnew)]
      exact Nat.lt_add_right _ (List.idxOf_lt_length_of_mem ((hmem s).mp hs))

/-- A list that is trimmed and free of repetitions is its own normal form. -/
theorem normalizeTargets_of_isTrimmed (htrimmed : ∀ t ∈ targets, IsTrimmed t) (hnodup : targets.Nodup) :
    normalizeTargets targets = targets := by
  induction targets using List.reverseRecOn with
  | nil => rfl
  | append_singleton targets target ih =>
    rw [← List.concat_eq_append, List.nodup_concat] at hnodup
    rw [List.forall_mem_append, List.forall_mem_singleton] at htrimmed
    rw [normalizeTargets_concat, ih htrimmed.1 hnodup.2, trim_of_isTrimmed htrimmed.2, if_neg hnodup.1]

theorem normalizeTargets_normalizeTargets (targets : List String) :
    normalizeTargets (normalizeTargets targets) = normalizeTargets targets :=
  normalizeTargets_of_isTrimmed (fun _ => isTrimmed_of_mem_normalizeTargets) (nodup_normalizeTargets targets)

end Targets

/-! ## Walks -/

section Walks

theorem Policy.targetsOf_normalize (policy : Policy) (rule : Rule) :
    policy.normalize.targetsOf rule.normalize = policy.targetsOf rule := by
  show (rule.targetResources.map normalizeTargets).getD (normalizeTargets policy.targetResources) = _
  unfold targetsOf Rule.targetResources Policy.targetResources
  cases rule.targets <;> exact normalizeTargets_normalizeTargets _

/-- A walk reads the same of a policy and of its normal form. -/
theorem Policy.inStep_normalize [PatternLimit] (policy : Policy) (request : Request) :
    policy.InStep request request policy.normalize := by
  refine ⟨rfl, (normalizeTargets_normalizeTargets _).symm, ?_⟩
  show List.Forall₂ _ policy.rules (policy.rules.map Rule.normalize)
  rw [List.forall₂_map_right_iff, List.forall₂_same]
  exact fun rule _ => ⟨rfl, rfl, rfl, (policy.targetsOf_normalize rule).symm, rfl⟩

theorem forall₂_inStep_normalize [PatternLimit] (policies : List Policy) (request : Request) :
    List.Forall₂ (Policy.InStep request request) policies (policies.map Policy.normalize) := by
  rw [List.forall₂_map_right_iff, List.forall₂_same]
  exact fun policy _ => policy.inStep_normalize request

end Walks

/-- **Target lists have one normal form, and no decision shows in which form they were written.** The normal form
holds the trimmed targets and nothing else, each once, in the order of their first occurrences, and it is its own
normal form. A walk over a policy set gives the same outcome, trail included, when all target lists are
normalized, and so the decision is the same. -/
theorem normalizeTargets_canonical [PatternLimit] (targets : List String) (policies : List Policy)
    (request : Request) :
    (∀ t ∈ normalizeTargets targets, IsTrimmed t) ∧
      (normalizeTargets targets).Nodup ∧
      (∀ t, t ∈ normalizeTargets targets ↔ ∃ target ∈ targets, IsTrimOf t target) ∧
      ((normalizeTargets targets).Pairwise fun s t => (targets.map trim).idxOf s < (targets.map trim).idxOf t) ∧
      normalizeTargets (normalizeTargets targets) = normalizeTargets targets ∧
      walk (policies.map Policy.normalize) request = walk policies request ∧
      ∀ default, decidePolicies (some (policies.map Policy.normalize)) request default =
        decidePolicies (some policies) request default := by
  have hstep := forall₂_inStep_normalize policies request
  refine ⟨fun t => isTrimmed_of_mem_normalizeTargets, nodup_normalizeTargets targets, fun t => ?_,
    pairwise_normalizeTargets targets, normalizeTargets_normalizeTargets targets,
    (walk_eq_of_inStep hstep rfl).symm, fun default => (decidePolicies_eq_of_inStep hstep rfl default).symm⟩
  rw [mem_normalizeTargets]
  simp only [isTrimOf_iff]

example : normalizeTargets [" /b", "/a", "/b\u2003", "/a"] = ["/b", "/a"] := by decide

end AccessDecision
