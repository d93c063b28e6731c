import AccessDecision.Condition.Evaluation
import AccessDecision.Pattern.Size
import Mathlib.Logic.Relation

/-!
# The classical truth of conditions

A condition that is made of connectives over comparisons has a classical truth value, once its comparisons have
values (`Condition.truth`): `and` asks for all of its arguments, `or` for some, `not` for none.  Evaluation stops
early and stops at errors, but where every comparison has an outcome it gives this value (`evaluate_eq_truth`).

The classical value depends on which arguments a connective has and neither on their order nor on their number
(`Connective.classical_congr`), so a condition may be rearranged at any depth (`Rearranged.truth_eq`).
-/

namespace AccessDecision

/-! ## Definitions -/

/-- The classical value of a connective whose arguments have these values. -/
def Connective.classical : Connective → List Bool → Bool
  | .and, values => values.all fun value => value
  | .or, values => values.any fun value => value
  | .not, values => !values.any fun value => value

namespace Condition

mutual

/-- Whether a condition is made of connectives over comparisons. -/
def isBoolean : Condition → Bool
  | combine _ args => areBoolean args
  | compare _ _ => true
  | normalizer _ | designator _ | literal _ | unrecognized _ => false

/-- Whether all conditions of a row are made of connectives over comparisons. -/
def areBoolean : List Condition → Bool
  | [] => true
  | arg :: rest => isBoolean arg && areBoolean rest

end

mutual

/-- The comparisons under the connectives of a condition. A comparison inside of a comparison is not among them: it
is no argument of a connective, and the outer one has no outcome. -/
def comparisons : Condition → List Condition
  | combine _ args => comparisonsOf args
  | compare test args => [compare test args]
  | normalizer _ | designator _ | literal _ | unrecognized _ => []

/-- The comparisons under the connectives of a row of conditions. -/
def comparisonsOf : List Condition → List Condition
  | [] => []
  | arg :: rest => comparisons arg ++ comparisonsOf rest

end

mutual

/-- The classical value of a condition whose comparisons have these values. -/
def truth (value : Condition → Bool) : Condition → Bool
  | combine op args => op.classical (truths value args)
  | compare test args => value (compare test args)
  | normalizer _ | designator _ | literal _ | unrecognized _ => false

/-- The classical values of a row of conditions. -/
def truths (value : Condition → Bool) : List Condition → List Bool
  | [] => []
  | arg :: rest => truth value arg :: truths value rest

end

/-- One connective, at any depth, is given the same arguments in another order or in other numbers. -/
inductive Rearranged : Condition → Condition → Prop where
  | here (op : Connective) {args args' : List Condition} : args ⊆ args' → args' ⊆ args →
    Rearranged (combine op args) (combine op args')
  | inside (op : Connective) (before after : List Condition) {arg arg' : Condition} : Rearranged arg arg' →
    Rearranged (combine op (before ++ arg :: after)) (combine op (before ++ arg' :: after))

end Condition

/-! ## Connectives -/

section Connectives

variable {values values' : List Bool}

/-- An argument either settles a connective or leaves it to the others. -/
theorem Connective.classical_cons (op : Connective) (value : Bool) (values : List Bool) :
    op.classical (value :: values) = (op.settles? value).getD (op.classical values) := by
  cases op <;> cases value <;> simp [classical, settles?]

theorem Connective.classical_nil (op : Connective) : op.classical [] = op.unsettled := by
  cases op <;> rfl

/-- A connective sees only which values there are. -/
theorem Connective.classical_congr (op : Connective) (h : ∀ value, value ∈ values ↔ value ∈ values') :
    op.classical values = op.classical values' := by
  have hall : (values.all fun value => value) = values'.all fun value => value := by
    rw [Bool.eq_iff_iff, List.all_eq_true, List.all_eq_true]
    simp only [h]
  have hany : (values.any fun value => value) = values'.any fun value => value := by
    rw [Bool.eq_iff_iff, List.any_eq_true, List.any_eq_true]
    simp only [h]
  cases op <;> simp only [classical, hall, hany]

end Connectives

namespace Condition

variable {principal : Principal} {value : Condition → Bool} {c c' m : Condition} {args : List Condition}

/-! ## Rows -/

theorem areBoolean_iff : areBoolean args = true ↔ ∀ arg ∈ args, arg.isBoolean = true := by
  induction args with
  | nil => simp [areBoolean]
  | cons arg rest ih => simp [areBoolean, ih]

theorem mem_comparisonsOf : m ∈ comparisonsOf args ↔ ∃ arg ∈ args, m ∈ arg.comparisons := by
  induction args with
  | nil => simp [comparisonsOf]
  | cons arg rest ih => simp [comparisonsOf, ih]

theorem truths_eq_map (value : Condition → Bool) (args : List Condition) :
    truths value args = args.map (truth value) := by
  induction args with
  | nil => rfl
  | cons arg rest ih => rw [truths, ih, List.map_cons]

/-! ## Evaluation -/

section Evaluation

variable [PatternLimit]

mutual

/-- The step of the induction: a boolean function whose comparisons have outcomes has its classical value. -/
theorem evaluateFunction?_eq_truth (c : Condition) (hc : c.isBoolean = true)
    (hvalue : ∀ m ∈ c.comparisons, m.evaluate principal = .ok (value m)) :
    evaluateFunction? principal c = some (.ok (c.truth value)) := by
  match c with
  | .combine op args => exact congrArg some (evaluateCombine_eq_classical op args hc hvalue)
  | .compare test args => exact congrArg some (hvalue (compare test args) (List.mem_singleton_self _))
  | .normalizer _ | .designator _ | .literal _ | .unrecognized _ => cases hc

theorem evaluateCombine_eq_classical (op : Connective) (args : List Condition) (hargs : areBoolean args = true)
    (hvalue : ∀ m ∈ comparisonsOf args, m.evaluate principal = .ok (value m)) :
    evaluateCombine principal op args = .ok (op.classical (truths value args)) := by
  match args with
  | [] => exact congrArg Except.ok op.classical_nil.symm
  | arg :: rest =>
    obtain ⟨harg, hrest⟩ : arg.isBoolean = true ∧ areBoolean rest = true := by
      simpa [areBoolean] using hargs
    have hfirst := evaluateFunction?_eq_truth arg harg fun m hm => hvalue m (List.mem_append_left _ hm)
    have hothers := evaluateCombine_eq_classical op rest hrest fun m hm => hvalue m (List.mem_append_right _ hm)
    rw [truths, op.classical_cons]
    -- a shortcut skips the other arguments, and their values are not asked for either
    cases hsettles : op.settles? (arg.truth value) with
    | some settled =>
      rw [evaluateCombine_of_settles hfirst hsettles]
      rfl
    | none =>
      rw [evaluateCombine_of_open hfirst hsettles, hothers]
      rfl

end

theorem evaluate_eq_truth (hc : c.isBoolean = true)
    (hvalue : ∀ m ∈ c.comparisons, m.evaluate principal = .ok (value m)) :
    c.evaluate principal = .ok (c.truth value) :=
  evaluate_of_some (evaluateFunction?_eq_truth c hc hvalue)

end Evaluation

/-! ## Rearranging -/

section Rearranging

/-- Two rows of arguments that differ in one place share every property that the two arguments there share. -/
theorem forall_mem_inside {P : Condition → Prop} {before after : List Condition} (h : P c ↔ P c') :
    (∀ arg ∈ before ++ c :: after, P arg) ↔ ∀ arg ∈ before ++ c' :: after, P arg := by
  simp only [List.forall_mem_append, List.forall_mem_cons, h]

theorem Rearranged.isBoolean_iff (h : Rearranged c c') : c.isBoolean = true ↔ c'.isBoolean = true := by
  induction h with
  | here op hsub hsub' =>
    show areBoolean _ = true ↔ areBoolean _ = true
    rw [areBoolean_iff, areBoolean_iff]
    exact ⟨fun h arg harg => h arg (hsub' harg), fun h arg harg => h arg (hsub harg)⟩
  | inside op before after _ ih =>
    show areBoolean _ = true ↔ areBoolean _ = true
    rw [areBoolean_iff, areBoolean_iff]
    exact forall_mem_inside ih

theorem Rearranged.mem_comparisons (h : Rearranged c c') : m ∈ c.comparisons ↔ m ∈ c'.comparisons := by
  induction h with
  | here op hsub hsub' =>
    show m ∈ comparisonsOf _ ↔ m ∈ comparisonsOf _
    rw [mem_comparisonsOf, mem_comparisonsOf]
    exact ⟨fun ⟨arg, harg, hm⟩ => ⟨arg, hsub harg, hm⟩, fun ⟨arg, harg, hm⟩ => ⟨arg, hsub' harg, hm⟩⟩
  | inside op before after _ ih =>
    show m ∈ comparisonsOf _ ↔ m ∈ comparisonsOf _
    rw [mem_comparisonsOf, mem_comparisonsOf]
    simp only [List.mem_append, List.mem_cons, or_and_right, exists_or, exists_eq_left, ih]

/-- Rearranging keeps the classical value, whatever the values of the comparisons. -/
theorem Rearranged.truth_eq (h : Rearranged c c') (value : Condition → Bool) : c.truth value = c'.truth value := by
  induction h with
  | here op hsub hsub' =>
    show op.classical (truths value _) = op.classical (truths value _)
    rw [truths_eq_map, truths_eq_map]
    refine op.classical_congr fun b => ?_
    exact ⟨fun hb => List.map_subset _ hsub hb, fun hb => List.map_subset _ hsub' hb⟩
  | inside op before after _ ih =>
    show op.classical (truths value _) = op.classical (truths value _)
    rw [truths_eq_map, truths_eq_map]
    simp only [List.map_append, List.map_cons, ih]

/-- A condition is evaluated to the same value however it is rearranged. -/
theorem evaluate_rearranged [PatternLimit] (hc : c.isBoolean = true)
    (hvalue : ∀ m ∈ c.comparisons, m.evaluate principal = .ok (value m))
    (h : Relation.ReflTransGen Rearranged c c') :
    c'.evaluate principal = .ok (c.truth value) := by
  induction h using Relation.ReflTransGen.head_induction_on with
  | refl => exact evaluate_eq_truth hc hvalue
  | head hstep _ ih =>
    rw [hstep.truth_eq value]
    exact ih (hstep.isBoolean_iff.mp hc) fun m hm => hvalue m (hstep.mem_comparisons.mpr hm)

end Rearranging

/-- **Where every comparison has an outcome, evaluation is classical logic.** A condition that is made of
connectives over comparisons is evaluated to its classical value: no shortcut and no order of evaluation shows in
it.  So the arguments of its connectives can be reordered and repeated, at any depth and any number of times. -/
theorem evaluate_classical [PatternLimit] (c : Condition) (principal : Principal) (value : Condition → Bool)
    (hc : c.isBoolean = true) (hvalue : ∀ m ∈ c.comparisons, m.evaluate principal = .ok (value m)) :
    c.evaluate principal = .ok (c.truth value) ∧
      ∀ c', Relation.ReflTransGen Rearranged c c' → c'.evaluate principal = c.evaluate principal := by
  have heval := evaluate_eq_truth hc hvalue
  refine ⟨heval, fun c' h => ?_⟩
  rw [heval]
  exact evaluate_rearranged hc hvalue h

/-- Somebody who has one role. -/
def inRole (role : String) : Principal :=
  ⟨"someone", fun id => if id = "role" then some ⟨"role", [role]⟩ else none⟩

/-- The comparison of a role. -/
def roleIs (role : String) : Condition := compare .equal [designator "role", literal [role]]

/-- For staff, a joint denial in which an inner row is reordered and the outer one has an argument twice. -/
theorem evaluate_joint_denial :
    let c := combine .not [combine .and [roleIs "staff", roleIs "guest"], combine .or []]
    let c' := combine .not [combine .or [], combine .and [roleIs "guest", roleIs "staff"], combine .or []]
    let value := fun m => m.isSatisfied (inRole "staff")
    (c.isBoolean = true ∧ ∀ m ∈ c.comparisons, m.evaluate (inRole "staff") = .ok (value m)) ∧
      Relation.ReflTransGen Rearranged c c' ∧ c.evaluate (inRole "staff") = .ok true ∧
      c'.evaluate (inRole "staff") = .ok true := by
  intro c c' value
  have hvalue : ∀ m ∈ c.comparisons, m.evaluate (inRole "staff") = .ok (value m) := by
    intro m hm
    rcases List.mem_cons.mp hm with rfl | hm
    · rfl
    · rw [List.mem_singleton.mp hm]
      rfl
  have hinner : Rearranged c (combine .not [combine .and [roleIs "guest", roleIs "staff"], combine .or []]) :=
    .inside .not [] [combine .or []] (.here .and (by simp) (by simp))
  have hchain : Relation.ReflTransGen Rearranged c c' :=
    .tail (.single hinner) (.here .not (by simp) (by simp))
  obtain ⟨heval, hsame⟩ := evaluate_classical c (inRole "staff") value rfl hvalue
  exact ⟨⟨rfl, hvalue⟩, hchain, heval, (hsame c' hchain).trans heval⟩

end Condition

end AccessDecision
