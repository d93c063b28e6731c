import AccessDecision.Pattern.Size
import AccessDecision.Proofs.Condition.Comparison
import AccessDecision.Proofs.Walk.Lockstep

/-!
# What a decision reads of a principal

A decision reads a principal through the designators in the conditions of rules and in no other way.  Two
principals with the same values under every designated key are given the same decision, whatever their names and
their other attributes are (`decidePolicies_eq_of_agreeOn`).  The lockstep of two walks needs only that the same
rules are satisfied; that they are follows by induction over conditions (`evaluateFunction?_congr`), errors
included.
-/

namespace AccessDecision

/-! ## Definitions -/

/-- Under each of these keys neither principal has an attribute, or both have one with the same values. -/
def Principal.AgreeOn (p q : Principal) (ids : List String) : Prop :=
  ∀ id ∈ ids, (p.lookup id).map (·.values) = (q.lookup id).map (·.values)

namespace Condition

mutual

/-- The keys of all designators in a condition, from left to right. -/
def designatedIds : Condition → List String
  | combine _ args | compare _ args => designatedIdsOf args
  | designator id => [id]
  | normalizer _ | literal _ | unrecognized _ => []

/-- The keys of all designators in a row of conditions. -/
def designatedIdsOf : List Condition → List String
  | [] => []
  | arg :: rest => designatedIds arg ++ designatedIdsOf rest

end

end Condition

/-- The keys of all designators in the conditions of a policy, rule by rule. -/
def Policy.designatedIds (policy : Policy) : List String :=
  policy.rules.flatMap fun rule => (rule.condition.map Condition.designatedIds).getD []

variable {p q : Principal} {ids ids' : List String}

/-! ## Agreement -/

section Agreement

theorem Principal.AgreeOn.symm (h : p.AgreeOn q ids) : q.AgreeOn p ids := fun id hid => (h id hid).symm

theorem Principal.AgreeOn.of_subset (h : p.AgreeOn q ids) (hsub : ids' ⊆ ids) : p.AgreeOn q ids' :=
  fun id hid => h id (hsub hid)

end Agreement

/-! ## Conditions -/

namespace Condition

section Evaluation

theorem mem_designatedIdsOf {args : List Condition} {id : String} (h : designator id ∈ args) :
    id ∈ designatedIdsOf args := by
  induction args with
  | nil => simp at h
  | cons arg rest ih =>
    unfold designatedIdsOf
    rcases List.mem_cons.mp h with rfl | hrest
    · exact List.mem_append_left _ (List.mem_singleton_self id)
    · exact List.mem_append_right _ (ih hrest)

/-- Where two principals agree, designators resolve to the same values. -/
theorem resolvesWithin_of_agreeOn {args : List Condition} (h : p.AgreeOn q (designatedIdsOf args)) :
    ResolvesWithin args p q := by
  rintro found ⟨id, hmem, hlookup⟩
  have hvalues := h id (mem_designatedIdsOf hmem)
  rw [hlookup, Option.map_some, eq_comm, Option.map_eq_some_iff] at hvalues
  obtain ⟨other, hother, hsame⟩ := hvalues
  exact ⟨other, ⟨id, hmem, hother⟩, hsame ▸ List.Subset.refl _⟩

mutual

/-- A condition sees of a principal only the values that it designates, also where it fails. -/
theorem evaluateFunction?_congr [PatternLimit] (c : Condition) (h : p.AgreeOn q c.designatedIds) :
    evaluateFunction? p c = evaluateFunction? q c := by
  match c with
  | .combine op args => exact congrArg some (evaluateCombine_congr op args h)
  | .compare test args =>
    exact congrArg some (evaluateCompare_congr (resolvesWithin_of_agreeOn h) (resolvesWithin_of_agreeOn h.symm))
  | .normalizer _ | .designator _ | .literal _ | .unrecognized _ => rfl

theorem evaluateCombine_congr [PatternLimit] (op : Connective) (args : List Condition)
    (h : p.AgreeOn q (designatedIdsOf args)) :
    evaluateCombine p op args = evaluateCombine q op args := by
  match args with
  | [] => rfl
  | arg :: rest =>
    have harg := evaluateFunction?_congr arg (h.of_subset (List.subset_append_left _ _))
    have hrest := evaluateCombine_congr op rest (h.of_subset (List.subset_append_right _ _))
    unfold evaluateCombine
    rw [harg, hrest]

end

end Evaluation

end Condition

/-! ## Rules and policies -/

section Policies

variable [PatternLimit] {policy : Policy} {rule : Rule}

theorem Rule.isSatisfied_congr (hrule : rule ∈ policy.rules) (h : p.AgreeOn q policy.designatedIds) :
    rule.isSatisfied p = rule.isSatisfied q := by
  unfold Rule.isSatisfied
  cases hcondition : rule.condition with
  | none => rfl
  | some c =>
    have hsub : c.designatedIds ⊆ policy.designatedIds := by
      intro id hid
      refine List.mem_flatMap.mpr ⟨rule, hrule, ?_⟩
      rwa [hcondition]
    have hc := Condition.evaluateFunction?_congr c (h.of_subset hsub)
    simp only [Condition.isSatisfied, Condition.evaluate, hc]

theorem Policy.inStep_of_agreeOn (h : p.AgreeOn q policy.designatedIds) (resource : String)
    (action : Option String) :
    policy.InStep ⟨resource, action, p⟩ ⟨resource, action, q⟩ policy := by
  refine ⟨rfl, rfl, List.forall₂_same.mpr fun rule hrule => ⟨rfl, rfl, rfl, rfl, ?_⟩⟩
  exact Rule.isSatisfied_congr hrule h

end Policies

/-- **A decision depends on a principal through the designated attributes only.** Two principals with the same
values under all keys that some condition designates are given the same decision, message and trail alike. -/
theorem decidePolicies_eq_of_agreeOn [PatternLimit] (policies : Option (List Policy)) (resource : String)
    (action : Option String) (default : Effect)
    (h : p.AgreeOn q ((policies.getD []).flatMap Policy.designatedIds)) :
    decidePolicies policies ⟨resource, action, p⟩ default =
      decidePolicies policies ⟨resource, action, q⟩ default := by
  cases policies with
  | none => rfl
  | some policies =>
    have hstep : List.Forall₂ (Policy.InStep ⟨resource, action, p⟩ ⟨resource, action, q⟩) policies policies := by
      refine List.forall₂_same.mpr fun policy hpolicy => ?_
      refine Policy.inStep_of_agreeOn (h.of_subset fun id hid => ?_) resource action
      exact List.mem_flatMap.mpr ⟨policy, hpolicy, hid⟩
    exact decidePolicies_eq_of_inStep hstep rfl default

/-- A permit for staff, beside a denial that designates an attribute which nobody here has. -/
def staffSet : List Policy :=
  [⟨"P1", [".*"], [], [
    ⟨"staff", none, [], .permit, some (.compare .equal [.designator "role", .literal ["staff"]])⟩,
    ⟨"blocked", none, [], .deny, some (.compare .equal [.designator "blocked", .literal ["yes"]])⟩]⟩]

/-- A name, a mail address and the id inside of an attribute do not show in the decision. -/
theorem staffSet_designates_role :
    let p : Principal := ⟨"ada", fun id => if id = "role" then some ⟨"role", ["staff"]⟩ else none⟩
    let q : Principal := ⟨"bob", fun id =>
      if id = "role" then some ⟨"group", ["staff"]⟩ else if id = "mail" then some ⟨"mail", ["b@x"]⟩ else none⟩
    p.AgreeOn q (((some staffSet).getD []).flatMap Policy.designatedIds) ∧
      decidePolicies (some staffSet) ⟨"/x", none, p⟩ .deny =
        decidePolicies (some staffSet) ⟨"/x", none, q⟩ .deny := by
  intro p q
  have hagree : p.AgreeOn q (((some staffSet).getD []).flatMap Policy.designatedIds) := by
    intro id hid
    have hids : id = "role" ∨ id = "blocked" := by
      simpa [staffSet, Policy.designatedIds, Condition.designatedIds, Condition.designatedIdsOf] using hid
    rcases hids with rfl | rfl <;> rfl
  exact ⟨hagree, decidePolicies_eq_of_agreeOn (some staffSet) "/x" none .deny hagree⟩

end AccessDecision
