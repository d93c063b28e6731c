import AccessDecision.Condition.Memo
import AccessDecision.Pattern.Size
import Mathlib.Tactic.SplitIfs

/-!
# The memo of patterns does not show

A memo is sound if it holds no more patterns than it may and for each of them what compiling it gives
(`Memo.IsSound`).  A computation `Gives` a value if it gives that value with every sound memo and leaves a sound
memo behind.  Looking up a pattern gives what compiling it gives (`gives_anchored`), and from there each layer
gives what it gives without a memo, up to the evaluation of conditions (`gives_evaluateM`).  So no answer of a
row of uses depends on the uses before it (`Memo.after_transparent`).
-/

namespace AccessDecision

open Pattern (Memo Call Reply Regex compileAnchored?)

namespace Pattern

/-! ## Definitions -/

/-- A memo holds what compiling its patterns gives, and not too many of them. -/
structure Memo.IsSound [PatternLimit] (memo : Memo) : Prop where
  bounded : memo.size ≤ Memo.capacity
  faithful : ∀ pattern compiled, memo.entries[pattern]? = some compiled → compiled = compileAnchored? pattern

/-- With every sound memo a computation gives this value, and it leaves a sound memo. -/
def Gives [PatternLimit] {α : Type} (x : StateM Memo α) (a : α) : Prop :=
  ∀ memo : Memo, memo.IsSound → (x.run memo).1 = a ∧ (x.run memo).2.IsSound

/-! ## One look-up -/

namespace Memo

variable {memo : Memo} {pattern other : String} {compiled : Option Regex}

theorem size_empty : Memo.empty.size = 0 := Std.HashMap.size_empty

theorem getElem?_empty (pattern : String) : Memo.empty.entries[pattern]? = none := Std.HashMap.getElem?_empty

/-- An addition to a full memo leaves nothing of what was there. -/
theorem getElem?_insert : (memo.insert pattern compiled).entries[other]? =
    if pattern = other then some compiled else if capacity ≤ memo.size then none else memo.entries[other]? := by
  unfold insert
  simp only [Std.HashMap.getElem?_insert, beq_iff_eq]
  split_ifs
  · rfl
  · exact Std.HashMap.getElem?_empty
  · rfl

/-- A full memo is emptied before an addition, so it never grows beyond its capacity. -/
theorem size_insert_le (memo : Memo) (pattern : String) (compiled : Option Regex) :
    (memo.insert pattern compiled).size ≤ capacity := by
  have hroom : (if capacity ≤ memo.size then ∅ else memo.entries).size < capacity := by
    split_ifs with hfull
    · rw [Std.HashMap.size_empty]
      decide
    · exact Nat.lt_of_not_le hfull
  exact Nat.le_trans Std.HashMap.size_insert_le hroom

variable [PatternLimit]

theorem isSound_empty : Memo.empty.IsSound := by
  refine ⟨?_, fun pattern compiled h => ?_⟩
  · rw [size_empty]
    exact Nat.zero_le _
  · rw [getElem?_empty] at h
    cases h

theorem IsSound.insert (h : memo.IsSound) (pattern : String) :
    (memo.insert pattern (compileAnchored? pattern)).IsSound := by
  refine ⟨size_insert_le memo pattern _, fun other compiled hother => ?_⟩
  rw [getElem?_insert] at hother
  split_ifs at hother with heq
  · subst heq
    exact (Option.some.inj hother).symm
  · exact h.faithful other compiled hother

theorem anchored_of_some (h : memo.entries[pattern]? = some compiled) :
    memo.anchored pattern = (compiled, memo) := by
  unfold anchored
  rw [h]

theorem anchored_of_none (h : memo.entries[pattern]? = none) :
    memo.anchored pattern = (compileAnchored? pattern, memo.insert pattern (compileAnchored? pattern)) := by
  unfold anchored
  rw [h]

/-- A pattern that was looked up is held, whether or not it compiles. -/
theorem getElem?_anchored (h : memo.IsSound) (pattern : String) :
    (memo.anchored pattern).2.entries[pattern]? = some (compileAnchored? pattern) := by
  cases hheld : memo.entries[pattern]? with
  | none =>
    rw [anchored_of_none hheld, getElem?_insert]
    exact if_pos rfl
  | some compiled =>
    rw [anchored_of_some hheld, hheld, h.faithful pattern compiled hheld]

/-- As long as there is room, a look-up makes the memo forget nothing. -/
theorem getElem?_anchored_of_room (hroom : memo.size < capacity) (hother : memo.entries[other]? = some compiled) :
    (memo.anchored pattern).2.entries[other]? = some compiled := by
  cases hheld : memo.entries[pattern]? with
  | none =>
    have hne : pattern ≠ other := by
      rintro rfl
      cases hheld.symm.trans hother
    rw [anchored_of_none hheld, getElem?_insert, if_neg hne, if_neg (Nat.not_le_of_lt hroom), hother]
  | some _ => rwa [anchored_of_some hheld]

end Memo

/-! ## Computations with a memo -/

section Gives

variable [PatternLimit] {α β : Type} {x : StateM Memo α} {a : α} {b : β}

theorem gives_pure (a : α) : Gives (pure a) a := fun _ h => ⟨rfl, h⟩

theorem Gives.bind {f : α → StateM Memo β} (hx : Gives x a) (hf : Gives (f a) b) : Gives (x >>= f) b := by
  intro memo h
  obtain ⟨ha, hnext⟩ := hx memo h
  show ((f (x.run memo).1).run (x.run memo).2).1 = b ∧ ((f (x.run memo).1).run (x.run memo).2).2.IsSound
  rw [ha]
  exact hf _ hnext

theorem gives_anyM {f : α → StateM Memo Bool} {p : α → Bool} {l : List α} (h : ∀ a ∈ l, Gives (f a) (p a)) :
    Gives (l.anyM f) (l.any p) := by
  induction l with
  | nil => exact gives_pure false
  | cons a l ih =>
    obtain ⟨ha, hl⟩ := List.forall_mem_cons.mp h
    rw [List.anyM_cons, List.any_cons]
    refine ha.bind ?_
    cases p a with
    | true => exact gives_pure true
    | false => exact ih hl

theorem gives_mapM {f : α → StateM Memo β} {g : α → β} {l : List α} (h : ∀ a ∈ l, Gives (f a) (g a)) :
    Gives (l.mapM f) (l.map g) := by
  induction l with
  | nil => exact gives_pure []
  | cons a l ih =>
    obtain ⟨ha, hl⟩ := List.forall_mem_cons.mp h
    rw [List.mapM_cons]
    exact ha.bind ((ih hl).bind (gives_pure _))

/-- **Looking up a pattern gives what compiling it gives.** -/
theorem gives_anchored (pattern : String) :
    Gives (modifyGet (Memo.anchored · pattern)) (compileAnchored? pattern) := by
  intro memo h
  show (memo.anchored pattern).1 = _ ∧ (memo.anchored pattern).2.IsSound
  cases hheld : memo.entries[pattern]? with
  | none =>
    rw [Memo.anchored_of_none hheld]
    exact ⟨rfl, h.insert pattern⟩
  | some compiled =>
    rw [Memo.anchored_of_some hheld]
    exact ⟨h.faithful pattern compiled hheld, h⟩

theorem gives_resourceMatches (resource pattern : String) :
    Gives (modifyGet (Memo.resourceMatches · resource pattern))
      (AccessDecision.resourceMatches resource pattern) := by
  intro memo h
  show (memo.resourceMatches resource pattern).1 = _ ∧ (memo.resourceMatches resource pattern).2.IsSound
  unfold Memo.resourceMatches AccessDecision.resourceMatches
  cases resource == pattern with
  | true => exact ⟨rfl, h⟩
  | false =>
    obtain ⟨hcompiled, hnext⟩ := gives_anchored pattern memo h
    have hcompiled : (memo.anchored pattern).1 = compileAnchored? pattern := hcompiled
    show (memo.anchored pattern).1.any (·.matchesText resource) = (compileAnchored? pattern).any _ ∧ _
    exact ⟨by rw [hcompiled], hnext⟩

end Gives

end Pattern

/-! ## Evaluation -/

namespace Condition

open Pattern (Gives gives_anchored gives_anyM gives_pure)

variable [PatternLimit]

theorem gives_valueTestM? (test : Comparison) (matcher : String) :
    Gives (valueTestM? test matcher) (valueTest? test matcher) := by
  cases test with
  | equal => exact gives_pure _
  | regex => exact (gives_anchored matcher).bind (gives_pure _)

theorem gives_evaluateCompareM (principal : Principal) (test : Comparison) (args : List Condition) :
    Gives (evaluateCompareM principal test args) (evaluateCompare principal test args) := by
  unfold evaluateCompareM
  cases hof : Operands.of principal test args with
  | error e =>
    rw [evaluateCompare_of_error hof]
    exact gives_pure _
  | ok operands =>
    rw [evaluateCompare_of_ok hof]
    simp only [List.isEmpty_iff]
    split_ifs
    · exact gives_pure _
    · exact gives_pure _
    · have hany : Gives (operands.anyMatchM test) (operands.anyMatch test) :=
        gives_anyM fun matcher _ => (gives_valueTestM? test matcher).bind (gives_pure _)
      exact hany.bind (gives_pure _)

mutual

theorem gives_evaluateFunctionM? (principal : Principal) :
    ∀ c : Condition, Gives (evaluateFunctionM? principal c) (evaluateFunction? principal c)
  | combine op args => by
    simp only [evaluateFunctionM?, evaluateFunction?]
    exact (gives_evaluateCombineM principal op args).bind (gives_pure _)
  | compare test args => by
    simp only [evaluateFunctionM?, evaluateFunction?]
    exact (gives_evaluateCompareM principal test args).bind (gives_pure _)
  | normalizer _ | designator _ | literal _ | unrecognized _ => by
    simp only [evaluateFunctionM?, evaluateFunction?]
    exact gives_pure _

/-- The remaining arguments of a connective: the memo is used up to the argument that settles it. -/
theorem gives_evaluateCombineM (principal : Principal) (op : Connective) :
    ∀ args : List Condition, Gives (evaluateCombineM principal op args) (evaluateCombine principal op args)
  | [] => by
    simp only [evaluateCombineM, evaluateCombine]
    exact gives_pure _
  | arg :: rest => by
    have harg := gives_evaluateFunctionM? principal arg
    have hrest := gives_evaluateCombineM principal op rest
    simp only [evaluateCombineM]
    -- whether the rest is looked at depends on the value of the argument, not on the memo
    refine harg.bind ?_
    cases hvalue : evaluateFunction? principal arg with
    | none =>
      rw [evaluateCombine_of_none hvalue]
      exact gives_pure _
    | some result =>
      cases result with
      | error e =>
        rw [evaluateCombine_of_error hvalue]
        exact gives_pure _
      | ok value =>
        cases hsettles : op.settles? value with
        | some result =>
          rw [evaluateCombine_of_settles hvalue hsettles]
          simp only [hsettles]
          exact gives_pure _
        | none =>
          rw [evaluateCombine_of_open hvalue hsettles]
          simp only [hsettles]
          exact hrest

end

/-- **Conditions evaluate to what they evaluate to without a memo.** -/
theorem gives_evaluateM (c : Condition) (principal : Principal) :
    Gives (c.evaluateM principal) (c.evaluate principal) :=
  (gives_evaluateFunctionM? principal c).bind (gives_pure _)

end Condition

/-! ## Rows of uses -/

namespace Pattern

section Calls

variable [PatternLimit]

theorem gives_call (call : Call) : Gives call.run call.reply := by
  cases call with
  | anchored pattern kind => exact (gives_anchored pattern).bind (gives_pure _)
  | resourceMatches resource pattern => exact (gives_resourceMatches resource pattern).bind (gives_pure _)
  | evaluate c principal => exact (c.gives_evaluateM principal).bind (gives_pure _)

theorem gives_calls (calls : List Call) : Gives (calls.mapM Call.run) (calls.map Call.reply) :=
  gives_mapM fun call _ => gives_call call

theorem Memo.isSound_after (calls : List Call) : (Memo.after calls).2.IsSound :=
  (gives_calls calls .empty Memo.isSound_empty).2

/-- The last use of a row finds the memo that the others left. -/
theorem Memo.after_concat (calls : List Call) (call : Call) :
    (Memo.after (calls ++ [call])).2 = (call.run.run (Memo.after calls).2).2 := by
  unfold Memo.after
  rw [List.mapM_append]
  rfl

end Calls

/-- **No answer depends on the uses before it.** In a row of uses of a memo that is empty at first, each answers
what it answers where every pattern is compiled anew.  After them the memo holds no more patterns than it may,
and for each of them what compiling it gives.  A pattern is held once it was asked for, and nothing is forgotten
as long as there is room. -/
theorem Memo.after_transparent [PatternLimit] (calls : List Call) :
    let memo := (Memo.after calls).2
    (Memo.after calls).1 = calls.map Call.reply ∧
      memo.size ≤ capacity ∧
      (∀ (pattern : String) (compiled : Option Regex), memo.entries[pattern]? = some compiled →
        compiled = compileAnchored? pattern) ∧
      ∀ pattern kind : String, let next := (Memo.after (calls ++ [.anchored pattern kind])).2
        next.entries[pattern]? = some (compileAnchored? pattern) ∧
          (memo.size < capacity → ∀ (other : String) (compiled : Option Regex),
            memo.entries[other]? = some compiled → next.entries[other]? = some compiled) := by
  intro memo
  have hsound : memo.IsSound := Memo.isSound_after calls
  refine ⟨(gives_calls calls .empty Memo.isSound_empty).1, hsound.bounded, hsound.faithful, ?_⟩
  intro pattern kind next
  have hnext : next = (memo.anchored pattern).2 := Memo.after_concat calls _
  rw [hnext]
  refine ⟨Memo.getElem?_anchored hsound pattern, fun hroom other compiled hother => ?_⟩
  exact Memo.getElem?_anchored_of_room hroom hother

/-- A pattern that does not compile is held as what it is, and still is after another one was asked for. -/
theorem Memo.unclosed_group_is_held :
    let calls : List Call := [.anchored "(" "target"]
    (Memo.after calls).1 = [.compiled none] ∧ (Memo.after calls).2.size < capacity ∧
      (Memo.after calls).2.entries["("]? = some none ∧ none = compileAnchored? "(" ∧
      (Memo.after (calls ++ [.anchored "[" "target"])).2.entries["("]? = some none := by
  intro calls
  have hunclosed : compileAnchored? "(" = none := by decide +kernel
  obtain ⟨-, -, -, hfirst⟩ := Memo.after_transparent []
  have hheld : (Memo.after calls).2.entries["("]? = some none := hunclosed ▸ (hfirst "(" "target").1
  have hroom : (Memo.after calls).2.size < capacity := by
    have hcalls : (Memo.after calls).2 = (Memo.empty.anchored "(").2 := Memo.after_concat [] _
    rw [hcalls, anchored_of_none (getElem?_empty "(")]
    refine Nat.lt_of_le_of_lt Std.HashMap.size_insert_le ?_
    decide +kernel
  obtain ⟨hreplies, -, hfaithful, hnext⟩ := Memo.after_transparent calls
  refine ⟨?_, hroom, hheld, hfaithful "(" none hheld, (hnext "[" "target").2 hroom "(" none hheld⟩
  simpa only [calls, List.map_cons, List.map_nil, Call.reply, hunclosed] using hreplies

end Pattern

end AccessDecision
