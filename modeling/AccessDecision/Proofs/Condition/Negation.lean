import AccessDecision.Pattern.Size
import AccessDecision.Proofs.Condition.Unrecognized

/-!
# Negation under evaluation

A connective can end early in three ways: at an argument that settles it, at one that fails, and at one that is
no boolean function.  A joint denial ends at the same argument, and in the same way, as the conjunction of the
single negations; so the first law of De Morgan holds for every row of arguments.  The other laws put a whole row
under one negation.  They hold exactly where the row is not stopped by an argument that is no boolean function,
because the negation would turn the `false` of such a stop around.

* `evaluateCombine_not_eq_and`: a joint denial is a conjunction of negations.
* `evaluateCombine_not_eq_map_or`: where nothing stops the row it is the negated disjunction, errors included.
* `evaluateCombine_of_isStopped`: where something does, both are false.
-/

namespace AccessDecision.Condition

/-- Disjunctions and joint denials of these arguments are stopped by one that is no boolean function: all
arguments in front of it are false. -/
def IsStopped [PatternLimit] (principal : Principal) (cs : List Condition) : Prop :=
  ∃ before stop after, cs = before ++ stop :: after ∧
    (∀ c ∈ before, evaluateFunction? principal c = some (.ok false)) ∧ stop.isFunction = false

variable {principal : Principal} {c : Condition} {cs : List Condition}

/-! ## A single negation -/

section Single

variable [PatternLimit]

/-- The negation of a boolean function negates its value and keeps its error. -/
theorem evaluateFunction?_not_singleton {result : Except EvalError Bool}
    (h : evaluateFunction? principal c = some result) :
    evaluateFunction? principal (combine .not [c]) = some (result.map (!·)) := by
  refine congrArg some ?_
  cases result with
  | error e => exact evaluateCombine_of_error h
  | ok value =>
    cases value with
    | true => exact evaluateCombine_of_settles h rfl
    | false => exact evaluateCombine_of_open h rfl

/-- The negation of what is no boolean function is false, like every connective over it. -/
theorem evaluateFunction?_not_singleton_of_none (h : evaluateFunction? principal c = none) :
    evaluateFunction? principal (combine .not [c]) = some (.ok false) :=
  congrArg some (evaluateCombine_of_none h)

/-- The value of a connective that is negated as a whole. -/
theorem evaluate_not_combine (principal : Principal) (op : Connective) (cs : List Condition) :
    (combine .not [combine op cs]).evaluate principal = (evaluateCombine principal op cs).map (!·) :=
  evaluate_of_some (evaluateFunction?_not_singleton rfl)

end Single

/-! ## Rows -/

section Rows

/-- Negating a result twice changes nothing. -/
theorem map_not_map_not (result : Except EvalError Bool) : (result.map (!·)).map (!·) = result := by
  cases result with
  | error e => rfl
  | ok value => exact congrArg Except.ok (Bool.not_not value)

variable [PatternLimit]

theorem evaluateCombine_not_eq_and (principal : Principal) (cs : List Condition) :
    evaluateCombine principal .not cs = evaluateCombine principal .and (cs.map fun c => combine .not [c]) := by
  induction cs with
  | nil => rfl
  | cons c cs ih =>
    rw [List.map_cons]
    cases hc : evaluateFunction? principal c with
    | none =>
      have hnot := evaluateFunction?_not_singleton_of_none hc
      rw [evaluateCombine_of_none hc, evaluateCombine_of_settles hnot rfl]
    | some result =>
      have hnot := evaluateFunction?_not_singleton hc
      cases result with
      | error e => rw [evaluateCombine_of_error hc, evaluateCombine_of_error hnot]
      | ok value =>
        cases value with
        | true => rw [evaluateCombine_of_settles hc rfl, evaluateCombine_of_settles hnot rfl]
        | false => rw [evaluateCombine_of_open hc rfl, evaluateCombine_of_open hnot rfl, ih]

theorem evaluateCombine_not_eq_map_or (h : ¬ IsStopped principal cs) :
    evaluateCombine principal .not cs = (evaluateCombine principal .or cs).map (!·) := by
  induction cs with
  | nil => rfl
  | cons c cs ih =>
    cases hc : evaluateFunction? principal c with
    | none => exact absurd ⟨[], c, cs, rfl, by simp, evaluateFunction?_eq_none_iff.mp hc⟩ h
    | some result =>
      cases result with
      | error e =>
        rw [evaluateCombine_of_error hc, evaluateCombine_of_error hc]
        rfl
      | ok value =>
        cases value with
        | true =>
          -- both are settled here, with opposite values
          rw [evaluateCombine_of_settles hc rfl, evaluateCombine_of_settles hc rfl]
          rfl
        | false =>
          have hrest : ¬ IsStopped principal cs := by
            rintro ⟨before, stop, after, rfl, hbefore, hstop⟩
            exact h ⟨c :: before, stop, after, rfl, List.forall_mem_cons.mpr ⟨hc, hbefore⟩, hstop⟩
          rw [evaluateCombine_of_open hc rfl, evaluateCombine_of_open hc rfl, ih hrest]

/-- A connective that goes on behind false arguments is false where it is stopped. -/
theorem evaluateCombine_of_isStopped {op : Connective} (hop : op.settles? false = none)
    (h : IsStopped principal cs) :
    evaluateCombine principal op cs = .ok false := by
  obtain ⟨before, stop, after, rfl, hbefore, hstop⟩ := h
  rw [evaluateCombine_append fun c hc => ⟨false, hbefore c hc, hop⟩,
    evaluateCombine_of_none (evaluateFunction?_eq_none_iff.mpr hstop)]

theorem not_isStopped_of_isFunction (h : ∀ c ∈ cs, c.isFunction = true) : ¬ IsStopped principal cs := by
  rintro ⟨before, stop, after, rfl, -, hstop⟩
  rw [h stop (List.mem_append_right _ List.mem_cons_self)] at hstop
  cases hstop

theorem evaluate_not_eq_not_or_iff : (combine .not cs).evaluate principal =
    (combine .not [combine .or cs]).evaluate principal ↔ ¬ IsStopped principal cs := by
  rw [evaluate_not_combine]
  refine ⟨fun heq hstopped => ?_, evaluateCombine_not_eq_map_or⟩
  have hnot : (combine .not cs).evaluate principal = .ok false := evaluateCombine_of_isStopped rfl hstopped
  have hor : evaluateCombine principal .or cs = .ok false := evaluateCombine_of_isStopped rfl hstopped
  rw [hnot, hor] at heq
  cases heq

theorem evaluate_or_eq_not_not_iff : (combine .or cs).evaluate principal =
    (combine .not [combine .not cs]).evaluate principal ↔ ¬ IsStopped principal cs := by
  rw [← evaluate_not_eq_not_or_iff, evaluate_not_combine, evaluate_not_combine]
  constructor
  · intro heq
    have hor : evaluateCombine principal .or cs = (evaluateCombine principal .not cs).map (!·) := heq
    rw [hor, map_not_map_not]
    rfl
  · intro heq
    have hnot : evaluateCombine principal .not cs = (evaluateCombine principal .or cs).map (!·) := heq
    rw [hnot, map_not_map_not]
    rfl

end Rows

/-- **The laws of De Morgan hold for results, errors included.** A joint denial is the conjunction of the single
negations, whatever stands in the row.  Over boolean functions it is also the negated disjunction, and a
disjunction is a negated joint denial; over any row these two hold exactly where nothing stops it. -/
theorem evaluate_deMorgan [PatternLimit] (principal : Principal) (cs : List Condition) :
    (combine .not cs).evaluate principal = (combine .and (cs.map fun c => combine .not [c])).evaluate principal ∧
      ((∀ c ∈ cs, c.isFunction = true) →
        (combine .not cs).evaluate principal = (combine .not [combine .or cs]).evaluate principal ∧
          (combine .or cs).evaluate principal = (combine .not [combine .not cs]).evaluate principal) ∧
      ((combine .not cs).evaluate principal = (combine .not [combine .or cs]).evaluate principal ↔
        ¬ IsStopped principal cs) ∧
      ((combine .or cs).evaluate principal = (combine .not [combine .not cs]).evaluate principal ↔
        ¬ IsStopped principal cs) := by
  refine ⟨evaluateCombine_not_eq_and principal cs, fun hcs => ?_, evaluate_not_eq_not_or_iff,
    evaluate_or_eq_not_not_iff⟩
  have hopen : ¬ IsStopped principal cs := not_isStopped_of_isFunction hcs
  exact ⟨evaluate_not_eq_not_or_iff.mpr hopen, evaluate_or_eq_not_not_iff.mpr hopen⟩

/-- A row that fails at its second argument fails alike in all four forms, though a later argument would settle
it. -/
theorem evaluate_deMorgan_of_failing :
    let cs := [sample false, compare .equal [literal ["a"]], sample true]
    let failure : Except EvalError Bool := .error (.noResolvedDesignator .equal)
    (∀ c ∈ cs, c.isFunction = true) ∧ (combine .not cs).evaluate sampler = failure ∧
      (combine .and (cs.map fun c => combine .not [c])).evaluate sampler = failure ∧
      (combine .not [combine .or cs]).evaluate sampler = failure ∧
      (combine .not [combine .not cs]).evaluate sampler = failure := by
  intro cs failure
  have hcs : ∀ c ∈ cs, c.isFunction = true := by
    intro c hc
    simp only [cs, List.mem_cons, List.not_mem_nil, or_false] at hc
    rcases hc with rfl | rfl | rfl <;> rfl
  have hnot : (combine .not cs).evaluate sampler = failure := rfl
  have hor : (combine .or cs).evaluate sampler = failure := rfl
  obtain ⟨hand, hwhole, -⟩ := evaluate_deMorgan sampler cs
  obtain ⟨hdenial, hdisjunction⟩ := hwhole hcs
  exact ⟨hcs, hnot, hand.symm.trans hnot, hdenial.symm.trans hnot, hdisjunction.symm.trans hor⟩

end AccessDecision.Condition
