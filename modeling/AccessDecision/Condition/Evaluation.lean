import AccessDecision.Condition.Basic
import AccessDecision.Pattern.Compile
import AccessDecision.Principal
import AccessDecision.Text.Lowercase

/-!
# Evaluating conditions

`Condition.evaluate` says whether a condition is satisfied by a principal.  An error means that the condition
itself is malformed; one that merely does not hold evaluates to `false`.

* Connectives take their arguments from left to right and stop as soon as the result is known.  At an argument
  that is no boolean function they stop and are false, whatever the connective.
* Comparisons take attributes, listed values and normalizers in any order.  Some attribute must be there, and
  some listed value.  A regular expression that does not compile is passed over.
-/

namespace AccessDecision

/-- Why a condition is malformed. -/
inductive EvalError where
  | invalidRoot (found : String)
  | noResolvedDesignator (test : Comparison)
  | noMatchers (test : Comparison)
  | unsupportedArgument (test : Comparison) (argument : String)
  deriving DecidableEq, Repr

/-- The error in words. It names the kind of a node and never an attribute value. -/
def EvalError.message : EvalError → String
  | invalidRoot found => s!"condition root must be a boolean function, found {found}"
  | noResolvedDesignator test =>
    s!"{test.id} has no attribute designator resolvable against the principal"
  | noMatchers test => s!"{test.id} has no attribute values to match against"
  | unsupportedArgument test argument => s!"{test.id} does not accept {argument} as an argument"

/-- The result that an argument with this value settles, if it settles any. -/
def Connective.settles? : Connective → Bool → Option Bool
  | .and, false => some false
  | .or, true => some true
  | .not, true => some false
  | _, _ => none

/-- The result when no argument settles it. -/
def Connective.unsettled : Connective → Bool
  | .and => true
  | .or => false
  | .not => true

namespace Condition

/-! ### Comparisons -/

/-- What the arguments of a comparison provide. -/
structure Operands where
  attributes : List IdentityAttribute
  matchers : List String
  lowercase : Bool
  trimEdges : Bool
  deriving Repr

/-- The operands of a comparison without arguments. -/
def Operands.none : Operands := ⟨[], [], false, false⟩

/-- Adds an argument to the operands. An attribute that the principal does not have adds nothing. -/
def Operands.add (principal : Principal) (test : Comparison) (operands : Operands) :
    Condition → Except EvalError Operands
  | designator attributeId =>
    .ok { operands with attributes := operands.attributes ++ (principal.lookup attributeId).toList }
  | literal values => .ok { operands with matchers := operands.matchers ++ values }
  | normalizer .lowercase => .ok { operands with lowercase := true }
  | normalizer .trimEdges => .ok { operands with trimEdges := true }
  | other => .error (.unsupportedArgument test other.describe)

/-- The operands that arguments provide. -/
def Operands.of (principal : Principal) (test : Comparison) (args : List Condition) :
    Except EvalError Operands :=
  args.foldlM (Operands.add principal test) Operands.none

/-- An attribute value as it is compared: trimmed before it is put into lower case. -/
def Operands.normalize (operands : Operands) (value : String) : String :=
  let value := if operands.trimEdges then Text.trim value else value
  if operands.lowercase then Text.lowercase value else value

variable [PatternLimit]

/-- The test that a listed value stands for; `none` if it is a pattern that does not compile. -/
def valueTest? (test : Comparison) (matcher : String) : Option (String → Bool) :=
  match test with
  | .equal => some (matcher == ·)
  | .regex => (Pattern.compileAnchored? matcher).map fun r value => r.matchesText value

/-- Whether some attribute value passes the test of some listed value. -/
def Operands.anyMatch (operands : Operands) (test : Comparison) : Bool :=
  operands.matchers.any fun matcher =>
    (valueTest? test matcher).any fun passes =>
      operands.attributes.any fun found => found.values.any fun value => passes (operands.normalize value)

/-- Evaluates a comparison. -/
def evaluateCompare (principal : Principal) (test : Comparison) (args : List Condition) :
    Except EvalError Bool := do
  let operands ← Operands.of principal test args
  if operands.attributes.isEmpty then throw (.noResolvedDesignator test)
  if operands.matchers.isEmpty then throw (.noMatchers test)
  return operands.anyMatch test

section Operands

variable {principal : Principal} {test : Comparison} {args : List Condition} {operands : Operands}

/-- A comparison fails where an argument is not accepted. -/
theorem evaluateCompare_of_error {e : EvalError} (h : Operands.of principal test args = .error e) :
    evaluateCompare principal test args = .error e := by
  unfold evaluateCompare
  rw [h]
  rfl

/-- What a comparison makes of its operands. -/
theorem evaluateCompare_of_ok (h : Operands.of principal test args = .ok operands) :
    evaluateCompare principal test args =
      if operands.attributes = [] then .error (.noResolvedDesignator test)
      else if operands.matchers = [] then .error (.noMatchers test)
      else .ok (operands.anyMatch test) := by
  unfold evaluateCompare
  rw [h]
  show (if operands.attributes.isEmpty then Except.error _ else
    if operands.matchers.isEmpty then Except.error _ else Except.ok (operands.anyMatch test)) = _
  simp only [List.isEmpty_iff]

end Operands

/-! ### Connectives -/

mutual

/-- Evaluates a boolean function; `none` for any other node. -/
def evaluateFunction? (principal : Principal) : Condition → Option (Except EvalError Bool)
  | combine op args => some (evaluateCombine principal op args)
  | compare test args => some (evaluateCompare principal test args)
  | normalizer _ | designator _ | literal _ | unrecognized _ => none

/-- Evaluates the remaining arguments of a connective. -/
def evaluateCombine (principal : Principal) (op : Connective) : List Condition → Except EvalError Bool
  | [] => .ok op.unsettled
  | arg :: rest =>
    match evaluateFunction? principal arg with
    | none => .ok false
    | some (.error e) => .error e
    | some (.ok value) =>
      match op.settles? value with
      | some result => .ok result
      | none => evaluateCombine principal op rest

end

/-- An argument has an outcome and leaves the connective to the arguments behind it. -/
def LeavesOpen (principal : Principal) (op : Connective) (arg : Condition) : Prop :=
  ∃ value, evaluateFunction? principal arg = some (.ok value) ∧ op.settles? value = none

section Steps

variable {principal : Principal} {op : Connective} {arg : Condition} {before rest : List Condition}
  {value result : Bool}

/-- A connective stops at an argument that is no boolean function. -/
theorem evaluateCombine_of_none (h : evaluateFunction? principal arg = none) :
    evaluateCombine principal op (arg :: rest) = .ok false := by
  simp only [evaluateCombine, h]

/-- A connective fails where an argument fails. -/
theorem evaluateCombine_of_error {e : EvalError} (h : evaluateFunction? principal arg = some (.error e)) :
    evaluateCombine principal op (arg :: rest) = .error e := by
  simp only [evaluateCombine, h]

/-- A connective stops at an argument that settles it. -/
theorem evaluateCombine_of_settles (h : evaluateFunction? principal arg = some (.ok value))
    (hsettles : op.settles? value = some result) : evaluateCombine principal op (arg :: rest) = .ok result := by
  simp only [evaluateCombine, h, hsettles]

/-- A connective goes on behind an argument that does not settle it. -/
theorem evaluateCombine_of_open (h : evaluateFunction? principal arg = some (.ok value))
    (hopen : op.settles? value = none) :
    evaluateCombine principal op (arg :: rest) = evaluateCombine principal op rest := by
  simp only [evaluateCombine, h, hopen]

theorem evaluateCombine_append (h : ∀ arg ∈ before, LeavesOpen principal op arg) :
    evaluateCombine principal op (before ++ rest) = evaluateCombine principal op rest := by
  induction before with
  | nil => rfl
  | cons arg before ih =>
    obtain ⟨⟨value, harg, hopen⟩, hbefore⟩ := List.forall_mem_cons.mp h
    rw [List.cons_append, evaluateCombine_of_open harg hopen, ih hbefore]

end Steps

/-- Evaluates a condition, whose root must be a boolean function. -/
def evaluate (condition : Condition) (principal : Principal) : Except EvalError Bool :=
  (evaluateFunction? principal condition).getD (.error (.invalidRoot condition.describe))

theorem evaluate_of_some {condition : Condition} {principal : Principal} {result : Except EvalError Bool}
    (h : evaluateFunction? principal condition = some result) : condition.evaluate principal = result := by
  simp only [evaluate, h, Option.getD_some]

/-- Only a boolean function has an outcome. -/
theorem evaluate_eq_ok_iff {condition : Condition} {principal : Principal} {value : Bool} :
    condition.evaluate principal = .ok value ↔ evaluateFunction? principal condition = some (.ok value) := by
  refine ⟨fun h => ?_, evaluate_of_some⟩
  cases hfunction : evaluateFunction? principal condition with
  | none =>
    simp only [evaluate, hfunction, Option.getD_none] at h
    cases h
  | some result => rw [← evaluate_of_some hfunction, h]

/-- Whether a condition evaluates to true; a malformed one does not. -/
def isSatisfied (condition : Condition) (principal : Principal) : Bool :=
  match condition.evaluate principal with
  | .ok value => value
  | .error _ => false

end Condition

end AccessDecision
