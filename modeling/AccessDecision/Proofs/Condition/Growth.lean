import AccessDecision.Pattern.Size
import AccessDecision.Proofs.Condition.Comparison

/-!
# Principals with more attributes

A principal may gain attributes, and values of attributes.  A comparison that was true stays true then.  A
condition without negations cannot become false either, but it may fail: a conjunction may now pass the argument
at which it stopped and come to a malformed one behind it.  `Condition.Exposed` describes these failures, and
there are no others.

* `exists_failing_of_evaluateCombine`: where a row fails.
* `Carries.cons`: the step over one argument of a connective.
* `carries_of_evaluateFunction?`: the induction over conditions and rows of arguments.
-/

namespace AccessDecision

/-! ## Definitions -/

/-- Each attribute that `p` has, `q` has with at least its values. -/
def Principal.GrowsTo (p q : Principal) : Prop :=
  ∀ id found, p.lookup id = some found → ∃ more, q.lookup id = some more ∧ found.values ⊆ more.values

theorem Principal.GrowsTo.resolvesWithin {p q : Principal} (h : p.GrowsTo q) (args : List Condition) :
    Condition.ResolvesWithin args p q := by
  rintro found ⟨id, hmem, hlookup⟩
  obtain ⟨more, hmore, hsub⟩ := h id found hlookup
  exact ⟨more, ⟨id, hmem, hmore⟩, hsub⟩

namespace Condition

mutual

/-- Whether a negation occurs in a condition, at any depth. -/
def hasNegation : Condition → Bool
  | combine op args => op == .not || anyNegation args
  | compare _ args => anyNegation args
  | normalizer _ | designator _ | literal _ | unrecognized _ => false

/-- Whether a negation occurs in a row of conditions. -/
def anyNegation : List Condition → Bool
  | [] => false
  | arg :: rest => hasNegation arg || anyNegation rest

end

/-- A condition fails for `q` because some conjunction in it does not stop any more where it stopped for `p`. -/
inductive Exposed [PatternLimit] (p q : Principal) : Condition → EvalError → Prop where
  /-- The conjunction stopped at `shortcut`, which was false. For `q` it goes on to an argument that fails. -/
  | reached (before between after : List Condition) {shortcut failing : Condition} {e : EvalError} :
    (∀ arg ∈ before, LeavesOpen p .and arg) → evaluateFunction? p shortcut = some (.ok false) →
    (∀ arg ∈ before ++ shortcut :: between, LeavesOpen q .and arg) →
    evaluateFunction? q failing = some (.error e) →
    Exposed p q (combine .and (before ++ shortcut :: between ++ failing :: after)) e
  /-- The conjunction is inside of an argument that a connective comes to for both principals. -/
  | inside (op : Connective) (before after : List Condition) {arg : Condition} {e : EvalError} :
    (∀ arg ∈ before, LeavesOpen p op arg) → (∀ arg ∈ before, LeavesOpen q op arg) → Exposed p q arg e →
    Exposed p q (combine op (before ++ arg :: after)) e

/-- What becomes of a value that a condition has for `p`: for `q` it has a value again, which is true if that one
was, or it fails where a conjunction does not stop any more. -/
def Carries [PatternLimit] (p q : Principal) (c : Condition) (value : Bool) : Prop :=
  (∃ value', evaluateFunction? q c = some (.ok value') ∧ (value = true → value' = true)) ∨ ∃ e, Exposed p q c e

variable {p q : Principal} {c arg : Condition} {args rest : List Condition} {op : Connective} {e : EvalError}
  {value : Bool}

/-! ## Failing rows -/

section Failing

variable [PatternLimit]

/-- A row that fails comes to an argument that fails. -/
theorem exists_failing_of_evaluateCombine (h : evaluateCombine q op args = .error e) :
    ∃ before failing after, args = before ++ failing :: after ∧ (∀ arg ∈ before, LeavesOpen q op arg) ∧
      evaluateFunction? q failing = some (.error e) := by
  induction args with
  | nil => cases h
  | cons arg rest ih =>
    cases harg : evaluateFunction? q arg with
    | none =>
      -- what is no function stops the connective with a value
      rw [evaluateCombine_of_none harg] at h
      cases h
    | some result =>
      cases result with
      | error e' =>
        rw [evaluateCombine_of_error harg] at h
        cases h
        exact ⟨[], arg, rest, rfl, by simp, harg⟩
      | ok outcome =>
        cases hsettles : op.settles? outcome with
        | some settled =>
          rw [evaluateCombine_of_settles harg hsettles] at h
          cases h
        | none =>
          rw [evaluateCombine_of_open harg hsettles] at h
          obtain ⟨before, failing, after, hsplit, hbefore, hfailing⟩ := ih h
          refine ⟨arg :: before, failing, after, by rw [hsplit, List.cons_append], ?_, hfailing⟩
          exact List.forall_mem_cons.mpr ⟨⟨outcome, harg, hsettles⟩, hbefore⟩

/-- An exposed failure is a failure. -/
theorem Exposed.evaluateFunction?_eq (h : Exposed p q c e) : evaluateFunction? q c = some (.error e) := by
  induction h with
  | reached before between after _ _ hopen hfailing =>
    refine congrArg some ?_
    rw [evaluateCombine_append hopen, evaluateCombine_of_error hfailing]
  | inside op before after _ hopen _ ih =>
    refine congrArg some ?_
    rw [evaluateCombine_append hopen, evaluateCombine_of_error ih]

/-- A failure stays exposed behind an argument that both principals pass over. -/
theorem Exposed.cons (hp : LeavesOpen p op arg) (hq : LeavesOpen q op arg) (h : Exposed p q (combine op rest) e) :
    Exposed p q (combine op (arg :: rest)) e := by
  cases h with
  | reached before between after hbefore hshortcut hopen hfailing =>
    exact .reached (arg :: before) between after (List.forall_mem_cons.mpr ⟨hp, hbefore⟩) hshortcut
      (List.forall_mem_cons.mpr ⟨hq, hopen⟩) hfailing
  | inside op before after hbefore hopen hexposed =>
    exact .inside op (arg :: before) after (List.forall_mem_cons.mpr ⟨hp, hbefore⟩)
      (List.forall_mem_cons.mpr ⟨hq, hopen⟩) hexposed

/-- A conjunction that went no further than its first argument for `p`, and fails for `q` behind it, is exposed. -/
theorem exposed_of_evaluateCombine (hp : evaluateFunction? p arg = some (.ok false))
    (hq : evaluateFunction? q arg = some (.ok true)) (h : evaluateCombine q .and rest = .error e) :
    Exposed p q (combine .and (arg :: rest)) e := by
  obtain ⟨between, failing, after, rfl, hbetween, hfailing⟩ := exists_failing_of_evaluateCombine h
  exact .reached [] between after (by simp) hp (List.forall_mem_cons.mpr ⟨⟨true, hq, rfl⟩, hbetween⟩) hfailing

end Failing

/-! ## Values for both principals -/

section Both

variable [PatternLimit]

/-- Behind an argument that both principals pass over, a row carries what the rest carries. -/
theorem Carries.cons_open {before after : Bool} (hp : evaluateFunction? p arg = some (.ok before))
    (hq : evaluateFunction? q arg = some (.ok after)) (hbefore : op.settles? before = none)
    (hafter : op.settles? after = none) (h : Carries p q (combine op rest) value) :
    Carries p q (combine op (arg :: rest)) value := by
  rcases h with ⟨value', heval, hvalue⟩ | ⟨e, hexposed⟩
  · have hrow : evaluateCombine q op (arg :: rest) = .ok value' :=
      (evaluateCombine_of_open hq hafter).trans (Option.some.inj heval)
    exact .inl ⟨value', congrArg some hrow, hvalue⟩
  · exact .inr ⟨e, hexposed.cons ⟨before, hp, hbefore⟩ ⟨after, hq, hafter⟩⟩

/-- The step over an argument that has a value for both principals. -/
theorem Carries.cons {before after : Bool} (hop : op ≠ .not) (hp : evaluateFunction? p arg = some (.ok before))
    (hq : evaluateFunction? q arg = some (.ok after)) (hle : before = true → after = true)
    (h : evaluateCombine p op (arg :: rest) = .ok value)
    (hrest : evaluateCombine p op rest = .ok value → Carries p q (combine op rest) value) :
    Carries p q (combine op (arg :: rest)) value := by
  cases op with
  | not => exact absurd rfl hop
  | or =>
    cases after with
    | true => exact .inl ⟨true, congrArg some (evaluateCombine_of_settles hq rfl), fun _ => rfl⟩
    | false =>
      have hbefore : before = false := by
        rw [← Bool.not_eq_true]
        exact fun htrue => Bool.false_ne_true (hle htrue)
      subst hbefore
      rw [evaluateCombine_of_open hp rfl] at h
      exact (hrest h).cons_open hp hq rfl rfl
  | and =>
    cases before with
    | true =>
      rw [evaluateCombine_of_open hp rfl] at h
      rw [hle rfl] at hq
      exact (hrest h).cons_open hp hq rfl rfl
    | false =>
      -- the row was false for `p`, so any value will do for `q`
      rw [evaluateCombine_of_settles hp rfl] at h
      have hvalue : value = false := (Except.ok.inj h).symm
      cases hrow : evaluateCombine q .and (arg :: rest) with
      | ok value' => exact .inl ⟨value', congrArg some hrow, fun htrue => by simp [hvalue] at htrue⟩
      | error e =>
        refine .inr ⟨e, ?_⟩
        cases after with
        | true =>
          rw [evaluateCombine_of_open hq rfl] at hrow
          exact exposed_of_evaluateCombine hp hq hrow
        | false =>
          rw [evaluateCombine_of_settles hq rfl] at hrow
          cases hrow

mutual

/-- The induction: without negations, a value for `p` is carried over to `q`. -/
theorem carries_of_evaluateFunction? (hpq : p.GrowsTo q) (c : Condition) (hc : c.hasNegation = false)
    {value : Bool} (h : evaluateFunction? p c = some (.ok value)) : Carries p q c value := by
  match c with
  | .combine op args =>
    obtain ⟨hop, hargs⟩ : op ≠ .not ∧ anyNegation args = false := by simpa [hasNegation] using hc
    exact carries_of_evaluateCombine hpq op hop args hargs (Option.some.inj h)
  | .compare test args =>
    obtain ⟨value', heval, hvalue⟩ :=
      exists_evaluateCompare_of_resolvesWithin (hpq.resolvesWithin args) (Option.some.inj h)
    exact .inl ⟨value', congrArg some heval, hvalue⟩
  | .normalizer _ | .designator _ | .literal _ | .unrecognized _ => cases h

theorem carries_of_evaluateCombine (hpq : p.GrowsTo q) (op : Connective) (hop : op ≠ .not) (args : List Condition)
    (hargs : anyNegation args = false) {value : Bool} (h : evaluateCombine p op args = .ok value) :
    Carries p q (combine op args) value := by
  match args with
  | [] => exact .inl ⟨value, congrArg some h, id⟩
  | arg :: rest =>
    obtain ⟨harg, hrest⟩ : arg.hasNegation = false ∧ anyNegation rest = false := by
      simpa [anyNegation] using hargs
    cases hp : evaluateFunction? p arg with
    | none =>
      -- the row stops here for both principals
      have hq : evaluateFunction? q arg = none :=
        evaluateFunction?_eq_none_iff.mpr (evaluateFunction?_eq_none_iff.mp hp)
      rw [evaluateCombine_of_none hp, ← evaluateCombine_of_none hq] at h
      exact .inl ⟨value, congrArg some h, id⟩
    | some result =>
      cases result with
      | error e =>
        rw [evaluateCombine_of_error hp] at h
        cases h
      | ok before =>
        rcases carries_of_evaluateFunction? hpq arg harg hp with ⟨after, hq, hle⟩ | ⟨e, hexposed⟩
        · exact .cons hop hp hq hle h fun hrow => carries_of_evaluateCombine hpq op hop rest hrest hrow
        · exact .inr ⟨e, .inside op [] rest (by simp) (by simp) hexposed⟩

end

end Both

/-- **More attributes never make a condition without negations false.** If it is true for a principal and another
one has at least the same attributes with at least the same values, it is true for that one, or it fails because
a conjunction that stopped at a false argument now goes on to one that fails. -/
theorem evaluate_of_growsTo [PatternLimit] (hc : c.hasNegation = false) (hpq : p.GrowsTo q)
    (h : c.evaluate p = .ok true) :
    c.evaluate q = .ok true ∨ ∃ e, c.evaluate q = .error e ∧ Exposed p q c e := by
  rcases carries_of_evaluateFunction? hpq c hc (evaluate_eq_ok_iff.mp h) with
    ⟨value, heval, hvalue⟩ | ⟨e, hexposed⟩
  · rw [hvalue rfl] at heval
    exact .inl (evaluate_of_some heval)
  · exact .inr ⟨e, evaluate_of_some hexposed.evaluateFunction?_eq, hexposed⟩

/-- Somebody with a name and these roles. -/
def withRoles (roles : List String) : Principal :=
  ⟨"someone", fun id =>
    if id = "name" then some ⟨"name", ["ada"]⟩ else if id = "role" then some ⟨"role", roles⟩ else none⟩

/-- A guest is let in by name. As staff the same person comes to a comparison without an attribute, behind the
role. -/
theorem exposed_by_second_role :
    let c := combine .or [combine .and [compare .equal [designator "role", literal ["staff"]],
      compare .regex [literal ["x"]]], compare .equal [designator "name", literal ["ada"]]]
    let p := withRoles ["guest"]
    let q := withRoles ["guest", "staff"]
    (c.hasNegation = false ∧ p.GrowsTo q ∧ c.evaluate p = .ok true) ∧
      Exposed p q c (.noResolvedDesignator .regex) := by
  intro c p q
  have hpq : p.GrowsTo q := by
    intro id found hfound
    by_cases hname : id = "name"
    · subst hname
      exact ⟨found, hfound, List.Subset.refl _⟩
    · by_cases hrole : id = "role"
      · subst hrole
        cases hfound
        exact ⟨⟨"role", ["guest", "staff"]⟩, rfl, by simp⟩
      · simp only [p, withRoles, if_neg hname, if_neg hrole] at hfound
        cases hfound
  have hc : c.hasNegation = false := rfl
  have hp : c.evaluate p = .ok true := by decide
  have hq : c.evaluate q = .error (.noResolvedDesignator .regex) := by decide
  refine ⟨⟨hc, hpq, hp⟩, ?_⟩
  rcases evaluate_of_growsTo hc hpq hp with htrue | ⟨e, herror, hexposed⟩
  · rw [hq] at htrue
    cases htrue
  · rw [hq] at herror
    cases herror
    exact hexposed

end Condition

end AccessDecision
