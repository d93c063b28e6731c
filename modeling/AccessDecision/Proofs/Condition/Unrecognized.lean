import AccessDecision.Pattern.Size
import AccessDecision.Proofs.Walk.Firing

/-!
# Conditions with unknown functions

An unknown function is no boolean function: a connective that comes to it stops and is false, and a comparison
that has it as an argument is malformed.  Whether this keeps the whole condition from becoming true depends on
where the unknown function stands.  `Condition.mayBe` computes, without a principal, which values some outcomes
of the comparisons can give a condition.

* `mayBe_of_evaluateFunction?`: no other value ever comes out.
* `exists_evaluateFunction?_of_mayBe`: each of these values does come out, once the well-formed comparisons are
  chosen.
* `mayCombine_and_of_mem`, `mayCombine_not_of_mem`, `mayCombine_or_append`: where an unknown function keeps a
  connective from becoming true.  Behind a shortcut, or in a connective that is negated, it does not.
-/

namespace AccessDecision.Condition

/-! ## Definitions -/

/-- Whether a node is a boolean function. -/
def isFunction : Condition → Bool
  | combine _ _ | compare _ _ => true
  | normalizer _ | designator _ | literal _ | unrecognized _ => false

/-- Whether a comparison accepts a node as an argument. -/
def isOperand : Condition → Bool
  | normalizer _ | designator _ | literal _ => true
  | combine _ _ | compare _ _ | unrecognized _ => false

mutual

/-- Whether some outcomes of its comparisons give a condition this value. A comparison that accepts all its
arguments can have either outcome. -/
def mayBe (value : Bool) : Condition → Bool
  | combine op args => mayCombine op value args
  | compare _ args => args.all isOperand
  | normalizer _ | designator _ | literal _ | unrecognized _ => false

/-- Whether some outcomes of their comparisons make a connective of these arguments have this value. -/
def mayCombine (op : Connective) (value : Bool) : List Condition → Bool
  | [] => op.unsettled == value
  | arg :: rest =>
    if arg.isFunction then
      (mayBe true arg && ((op.settles? true).map (· == value)).getD (mayCombine op value rest)) ||
        (mayBe false arg && ((op.settles? false).map (· == value)).getD (mayCombine op value rest))
    else !value

end

mutual

/-- A condition without what its well-formed comparisons compare. Connectives and unknown functions stay. -/
def outline : Condition → Condition
  | combine op args => combine op (outlines args)
  | compare test args => if args.all isOperand then compare .equal [] else compare test args
  | other => other

/-- The outlines of a row of conditions. -/
def outlines : List Condition → List Condition
  | [] => []
  | arg :: rest => outline arg :: outlines rest

end

/-! ## Comparisons -/

section Comparisons

variable {principal : Principal} {test : Comparison}

theorem isOperand_of_add {operands operands' : Operands} {arg : Condition}
    (h : Operands.add principal test operands arg = .ok operands') : arg.isOperand = true := by
  cases arg with
  | normalizer change => rfl
  | designator id => rfl
  | literal values => rfl
  | combine op args => cases h
  | compare test args => cases h
  | unrecognized function => cases h

theorem all_isOperand_of_foldlM {args : List Condition} {operands operands' : Operands}
    (h : args.foldlM (Operands.add principal test) operands = .ok operands') : args.all isOperand = true := by
  induction args generalizing operands with
  | nil => rfl
  | cons arg args ih =>
    rw [List.foldlM_cons] at h
    cases hadd : Operands.add principal test operands arg with
    | error e =>
      rw [hadd] at h
      cases h
    | ok next =>
      rw [hadd] at h
      rw [List.all_cons, isOperand_of_add hadd, ih h]
      rfl

/-- A comparison with an outcome accepts all its arguments. -/
theorem all_isOperand_of_evaluateCompare [PatternLimit] {args : List Condition} {value : Bool}
    (h : evaluateCompare principal test args = .ok value) : args.all isOperand = true := by
  cases hof : Operands.of principal test args with
  | error e =>
    rw [evaluateCompare_of_error hof] at h
    cases h
  | ok operands => exact all_isOperand_of_foldlM hof

theorem unrecognizedIdsOf_eq_nil {args : List Condition} (h : args.all isOperand = true) :
    unrecognizedIdsOf args = [] := by
  induction args with
  | nil => rfl
  | cons arg args ih =>
    rw [List.all_cons, Bool.and_eq_true] at h
    unfold unrecognizedIdsOf
    rw [ih h.2, List.append_nil]
    cases arg <;> first | rfl | cases h.1

end Comparisons

/-! ## No other value comes out -/

section Sound

variable [PatternLimit] {principal : Principal}

theorem isSome_evaluateFunction? (principal : Principal) (c : Condition) :
    (evaluateFunction? principal c).isSome = c.isFunction := by
  cases c <;> rfl

theorem evaluateFunction?_eq_none_iff {c : Condition} :
    evaluateFunction? principal c = none ↔ c.isFunction = false := by
  rw [← isSome_evaluateFunction? principal, Option.isSome_eq_false_iff, Option.isNone_iff_eq_none]

mutual

theorem mayBe_of_evaluateFunction? (c : Condition) {value : Bool}
    (h : evaluateFunction? principal c = some (.ok value)) : c.mayBe value = true := by
  match c with
  | .combine op args =>
    exact mayCombine_of_evaluateCombine op args (Option.some.inj h)
  | .compare test args =>
    exact all_isOperand_of_evaluateCompare (Option.some.inj h)
  | .normalizer _ | .designator _ | .literal _ | .unrecognized _ => cases h

theorem mayCombine_of_evaluateCombine (op : Connective) (args : List Condition) {value : Bool}
    (h : evaluateCombine principal op args = .ok value) : mayCombine op value args = true := by
  match args with
  | [] =>
    unfold mayCombine
    simpa using Except.ok.inj h
  | arg :: rest =>
    unfold mayCombine
    cases harg : evaluateFunction? principal arg with
    | none =>
      -- the connective ends here and is false
      rw [evaluateCombine_of_none harg] at h
      have hvalue : false = value := Except.ok.inj h
      simp [evaluateFunction?_eq_none_iff.mp harg, ← hvalue]
    | some result =>
      have hf : arg.isFunction = true := by
        rw [← isSome_evaluateFunction? principal, harg]
        rfl
      rw [if_pos hf]
      cases result with
      | error e =>
        rw [evaluateCombine_of_error harg] at h
        cases h
      | ok outcome =>
        have hmay := mayBe_of_evaluateFunction? arg harg
        have hnext : ((op.settles? outcome).map (· == value)).getD (mayCombine op value rest) = true := by
          cases hsettles : op.settles? outcome with
          | some settled =>
            rw [evaluateCombine_of_settles harg hsettles] at h
            simpa using Except.ok.inj h
          | none =>
            rw [evaluateCombine_of_open harg hsettles] at h
            exact mayCombine_of_evaluateCombine op rest h
        cases outcome <;> simp [hmay, hnext]

end

/-- A condition that cannot become true is true for no principal. -/
theorem evaluate_ne_true_of_mayBe {c : Condition} (h : c.mayBe true = false) (principal : Principal) :
    c.evaluate principal ≠ .ok true := by
  intro heval
  have hmay := mayBe_of_evaluateFunction? c (evaluate_eq_ok_iff.mp heval)
  rw [h] at hmay
  cases hmay

end Sound

/-! ## Each of these values comes out -/

section Complete

/-- A principal with one attribute. -/
def sampler : Principal := ⟨"sampler", fun id => if id = "a" then some ⟨"a", ["a"]⟩ else none⟩

/-- A comparison that has this value for the sampler. -/
def sample (value : Bool) : Condition :=
  compare .equal [designator "a", literal [if value then "a" else "b"]]

theorem evaluateFunction?_sample [PatternLimit] (value : Bool) :
    evaluateFunction? sampler (sample value) = some (.ok value) := by
  cases value <;> rfl

mutual

/-- Once its well-formed comparisons are chosen, a condition has for the sampler any value that it may have. -/
theorem exists_evaluateFunction?_of_mayBe [PatternLimit] (c : Condition) {value : Bool}
    (h : c.mayBe value = true) :
    ∃ c', c'.outline = c.outline ∧ evaluateFunction? sampler c' = some (.ok value) := by
  match c with
  | .combine op args =>
    obtain ⟨args', houtline, heval⟩ := exists_evaluateCombine_of_mayCombine op args h
    refine ⟨combine op args', ?_, congrArg some heval⟩
    unfold outline
    rw [houtline]
  | .compare test args =>
    have hall : args.all isOperand = true := h
    refine ⟨sample value, ?_, evaluateFunction?_sample value⟩
    simp [outline, sample, isOperand, hall]
  | .normalizer _ | .designator _ | .literal _ | .unrecognized _ => cases h

theorem exists_evaluateCombine_of_mayCombine [PatternLimit] (op : Connective) (args : List Condition)
    {value : Bool} (h : mayCombine op value args = true) :
    ∃ args', outlines args' = outlines args ∧ evaluateCombine sampler op args' = .ok value := by
  match args with
  | [] =>
    unfold mayCombine at h
    exact ⟨[], rfl, congrArg Except.ok (by simpa using h)⟩
  | arg :: rest =>
    unfold mayCombine at h
    cases hf : arg.isFunction with
    | false =>
      -- the connective stops here, whatever follows
      rw [hf] at h
      refine ⟨arg :: rest, rfl, ?_⟩
      rw [evaluateCombine_of_none (evaluateFunction?_eq_none_iff.mpr hf)]
      simpa using h
    | true =>
      have houtcome : ∃ outcome, mayBe outcome arg = true ∧
          ((op.settles? outcome).map (· == value)).getD (mayCombine op value rest) = true := by
        simp only [hf, if_true, Bool.or_eq_true, Bool.and_eq_true] at h
        rcases h with h | h
        · exact ⟨true, h⟩
        · exact ⟨false, h⟩
      obtain ⟨outcome, harg, hnext⟩ := houtcome
      obtain ⟨arg', houtline, heval⟩ := exists_evaluateFunction?_of_mayBe arg harg
      cases hsettles : op.settles? outcome with
      | some settled =>
        refine ⟨arg' :: rest, ?_, ?_⟩
        · unfold outlines
          rw [houtline]
        · rw [evaluateCombine_of_settles heval hsettles]
          simpa [hsettles] using hnext
      | none =>
        rw [hsettles] at hnext
        obtain ⟨rest', houtlines, hrest⟩ := exists_evaluateCombine_of_mayCombine op rest hnext
        refine ⟨arg' :: rest', ?_, ?_⟩
        · unfold outlines
          rw [houtline, houtlines]
        · rw [evaluateCombine_of_open heval hsettles, hrest]

end

end Complete

/-! ## What an outline keeps -/

section Outline

mutual

/-- The unknown functions of a condition are those of its outline. -/
theorem unrecognizedIds_outline (c : Condition) : c.outline.unrecognizedIds = c.unrecognizedIds := by
  match c with
  | .combine op args => exact unrecognizedIdsOf_outlines args
  | .compare test args =>
    unfold outline
    split
    · rename_i h
      exact (unrecognizedIdsOf_eq_nil h).symm
    · rfl
  | .normalizer _ | .designator _ | .literal _ | .unrecognized _ => rfl

theorem unrecognizedIdsOf_outlines (args : List Condition) :
    unrecognizedIdsOf (outlines args) = unrecognizedIdsOf args := by
  match args with
  | [] => rfl
  | arg :: rest =>
    unfold outlines unrecognizedIdsOf
    rw [unrecognizedIds_outline arg, unrecognizedIdsOf_outlines rest]

end

end Outline

/-! ## Where an unknown function decides -/

section Positions

/-- An unknown function anywhere inside a comparison leaves it without a value. -/
theorem mayBe_compare_of_unrecognized {test : Comparison} {args : List Condition}
    (h : unrecognizedIdsOf args ≠ []) (value : Bool) : (compare test args).mayBe value = false := by
  show args.all isOperand = false
  rw [← Bool.not_eq_true]
  exact fun hall => h (unrecognizedIdsOf_eq_nil hall)

/-- A conjunction with an argument that cannot become true cannot become true. -/
theorem mayCombine_and_of_mem {args : List Condition} {arg : Condition} (harg : arg ∈ args)
    (h : arg.mayBe true = false) : mayCombine .and true args = false := by
  induction args with
  | nil => simp at harg
  | cons first rest ih =>
    unfold mayCombine
    simp only [Connective.settles?, Option.map_none, Option.getD_none, Option.map_some, Option.getD_some]
    rcases List.mem_cons.mp harg with rfl | harg
    · simp [h]
    · simp [ih harg]

/-- A negation with an argument that cannot become false cannot become true. -/
theorem mayCombine_not_of_mem {args : List Condition} {arg : Condition} (harg : arg ∈ args)
    (h : arg.mayBe false = false) : mayCombine .not true args = false := by
  induction args with
  | nil => simp at harg
  | cons first rest ih =>
    unfold mayCombine
    simp only [Connective.settles?, Option.map_none, Option.getD_none, Option.map_some, Option.getD_some]
    rcases List.mem_cons.mp harg with rfl | harg
    · simp [h]
    · simp [ih harg]

/-- A disjunction cannot become true through what stands behind an argument without a value. -/
theorem mayCombine_or_append {before : List Condition} (h : ∀ arg ∈ before, arg.mayBe true = false)
    {stop : Condition} (hstop : ∀ value, stop.mayBe value = false) (after : List Condition) :
    mayCombine .or true (before ++ stop :: after) = false := by
  induction before with
  | nil =>
    rw [List.nil_append]
    unfold mayCombine
    simp [hstop]
  | cons first rest ih =>
    rw [List.cons_append]
    unfold mayCombine
    simp only [Connective.settles?, Option.map_none, Option.getD_none, Option.map_some, Option.getD_some]
    simp [h first List.mem_cons_self, ih fun arg harg => h arg (List.mem_cons_of_mem _ harg)]

end Positions

/-! ## Rules with unknown functions -/

/-- **A condition with unknown functions that cannot become true disables its rule.** It is true for no
principal, and no rule with it fires.  This is exact: any other condition with unknown functions is true for some
principal once its well-formed comparisons are chosen.  An unknown function keeps a condition from becoming true
at the root, anywhere inside a comparison, and wherever it leaves an argument of a conjunction, a negation or a
disjunction without the value that these need. -/
theorem unrecognized_disables_rule [PatternLimit] {c : Condition} (hunknown : c.unrecognizedIds ≠ []) :
    (c.mayBe true = false →
      (∀ principal, c.evaluate principal ≠ .ok true) ∧
        ∀ (rule : Rule) (policy : Policy) (request : Request),
          rule.condition = some c → ¬ rule.Fires policy request) ∧
      (c.mayBe true = true →
        ∃ (c' : Condition) (principal : Principal), c'.outline = c.outline ∧
          c'.unrecognizedIds = c.unrecognizedIds ∧ c'.evaluate principal = .ok true) ∧
      (c.mayBe true = true → ∃ op args, c = combine op args) ∧
      (∀ args, c = combine .and args → (∃ arg ∈ args, arg.mayBe true = false) → c.mayBe true = false) ∧
      (∀ args, c = combine .not args → (∃ arg ∈ args, arg.mayBe false = false) → c.mayBe true = false) ∧
      ∀ before stop after, c = combine .or (before ++ stop :: after) →
        (∀ arg ∈ before, arg.mayBe true = false) → (∀ value, stop.mayBe value = false) →
          c.mayBe true = false := by
  refine ⟨fun h => ⟨evaluate_ne_true_of_mayBe h, ?_⟩, fun h => ?_, fun h => ?_, ?_, ?_, ?_⟩
  · intro rule policy request hcondition hfires
    exact evaluate_ne_true_of_mayBe h request.principal (hfires.condition c hcondition)
  · -- comparisons chosen for the sampler make the condition true
    obtain ⟨c', houtline, heval⟩ := exists_evaluateFunction?_of_mayBe c h
    refine ⟨c', sampler, houtline, ?_, ?_⟩
    · rw [← unrecognizedIds_outline c', houtline, unrecognizedIds_outline]
    · unfold evaluate
      rw [heval]
      rfl
  · cases c with
    | combine op args => exact ⟨op, args, rfl⟩
    | compare test args =>
      rw [mayBe_compare_of_unrecognized hunknown] at h
      cases h
    | normalizer change => cases h
    | designator id => cases h
    | literal values => cases h
    | unrecognized function => cases h
  · rintro args rfl ⟨arg, harg, h⟩
    exact mayCombine_and_of_mem harg h
  · rintro args rfl ⟨arg, harg, h⟩
    exact mayCombine_not_of_mem harg h
  · rintro before stop after rfl h hstop
    exact mayCombine_or_append h hstop after

/-- An unknown function may stand where it does not keep a condition from becoming true: behind an alternative that
holds, in a conjunction or disjunction that is negated, or behind an argument that makes a conjunction false. -/
theorem evaluate_unrecognized_true :
    let unknown := unrecognized "integer-equal"
    let shortcut := combine .or [sample true, unknown]
    let negated := combine .not [combine .and [unknown]]
    let refuted := combine .not [combine .and [sample false, unknown]]
    ∀ c ∈ [shortcut, negated, refuted], c.unrecognizedIds ≠ [] ∧ c.evaluate sampler = .ok true := by
  intro unknown shortcut negated refuted c hc
  simp only [List.mem_cons, List.not_mem_nil, or_false] at hc
  rcases hc with rfl | rfl | rfl
  · exact ⟨by decide, rfl⟩
  · exact ⟨by decide, rfl⟩
  · exact ⟨by decide, rfl⟩

/-- A rule that asks for staff with an unknown function beside it never fires. -/
theorem unrecognized_disables_staff_rule :
    let c := combine .and [compare .equal [designator "role", literal ["staff"]], unrecognized "integer-equal"]
    c.unrecognizedIds = ["integer-equal"] ∧ (∀ principal, c.evaluate principal ≠ .ok true) ∧
      ∀ (rule : Rule) (policy : Policy) (request : Request),
        rule.condition = some c → ¬ rule.Fires policy request := by
  intro c
  exact ⟨rfl, (unrecognized_disables_rule (c := c) (by decide)).1 rfl⟩

end AccessDecision.Condition
