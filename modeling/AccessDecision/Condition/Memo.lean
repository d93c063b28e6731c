import AccessDecision.Condition.Evaluation
import AccessDecision.Pattern.Memo

/-!
# Evaluating conditions with a memo

A service compiles patterns through one memo that all its calls share and change.  `Condition.evaluateM`
evaluates a condition in this way: the listed patterns of a comparison are looked up one after the other, and
only up to the first one that matches.  `Call` is one use of the memo, and `Memo.after` what a row of uses
answers and leaves.
-/

namespace AccessDecision

open Pattern (Memo Regex compileAnchored?)

variable [PatternLimit]

namespace Condition

/-- The test that a listed value stands for; patterns are looked up in the memo. -/
def valueTestM? (test : Comparison) (matcher : String) : StateM Memo (Option (String → Bool)) :=
  match test with
  | .equal => pure (some (matcher == ·))
  | .regex => do
    let compiled ← modifyGet (Memo.anchored · matcher)
    return compiled.map fun r value => r.matchesText value

/-- Whether some attribute value passes the test of some listed value. -/
def Operands.anyMatchM (operands : Operands) (test : Comparison) : StateM Memo Bool :=
  operands.matchers.anyM fun matcher => do
    let passes? ← valueTestM? test matcher
    return passes?.any fun passes =>
      operands.attributes.any fun found => found.values.any fun value => passes (operands.normalize value)

/-- Evaluates a comparison. -/
def evaluateCompareM (principal : Principal) (test : Comparison) (args : List Condition) :
    StateM Memo (Except EvalError Bool) :=
  match Operands.of principal test args with
  | .error e => return .error e
  | .ok operands =>
    if operands.attributes.isEmpty then return .error (.noResolvedDesignator test)
    else if operands.matchers.isEmpty then return .error (.noMatchers test)
    else do
      let value ← operands.anyMatchM test
      return .ok value

mutual

/-- Evaluates a boolean function; `none` for any other node. -/
def evaluateFunctionM? (principal : Principal) : Condition → StateM Memo (Option (Except EvalError Bool))
  | combine op args => do
    let result ← evaluateCombineM principal op args
    return some result
  | compare test args => do
    let result ← evaluateCompareM principal test args
    return some result
  | normalizer _ | designator _ | literal _ | unrecognized _ => return none

/-- Evaluates the remaining arguments of a connective. -/
def evaluateCombineM (principal : Principal) (op : Connective) :
    List Condition → StateM Memo (Except EvalError Bool)
  | [] => return .ok op.unsettled
  | arg :: rest => do
    match ← evaluateFunctionM? principal arg with
    | none => return .ok false
    | some (.error e) => return .error e
    | some (.ok value) =>
      match op.settles? value with
      | some result => return .ok result
      | none => evaluateCombineM principal op rest

end

/-- Evaluates a condition, whose root must be a boolean function. -/
def evaluateM (condition : Condition) (principal : Principal) : StateM Memo (Except EvalError Bool) := do
  let result ← evaluateFunctionM? principal condition
  return result.getD (.error (.invalidRoot condition.describe))

end Condition

namespace Pattern

/-- One use of the memo. -/
inductive Call where
  /-- Asks for the anchored form of a pattern. The kind of the pattern shows in warnings only. -/
  | anchored (pattern kind : String)
  | resourceMatches (resource pattern : String)
  | evaluate (condition : Condition) (principal : Principal)

/-- What a use of the memo answers. -/
inductive Reply where
  | compiled (r : Option Regex)
  | covered (value : Bool)
  | evaluated (result : Except EvalError Bool)

/-- What a use answers where every pattern is compiled anew. -/
def Call.reply : Call → Reply
  | anchored pattern _ => .compiled (compileAnchored? pattern)
  | resourceMatches resource pattern => .covered (AccessDecision.resourceMatches resource pattern)
  | evaluate condition principal => .evaluated (condition.evaluate principal)

/-- What a use answers with the memo as it is, and the memo after it. -/
def Call.run : Call → StateM Memo Reply
  | anchored pattern _ => do
    let compiled ← modifyGet (Memo.anchored · pattern)
    return .compiled compiled
  | resourceMatches resource pattern => do
    let covered ← modifyGet (Memo.resourceMatches · resource pattern)
    return .covered covered
  | evaluate condition principal => do
    let result ← condition.evaluateM principal
    return .evaluated result

/-- What a row of uses answers, and the memo after them; the memo is empty before the first one. -/
def Memo.after (calls : List Call) : List Reply × Memo := (calls.mapM Call.run).run .empty

end Pattern

end AccessDecision
