import AccessDecision.Condition.Evaluation
import AccessDecision.Pattern.Size
import AccessDecision.Proofs.Pattern.WholeText

/-!
# Invalid patterns

A pattern that does not compile by itself covers only the resource with its own text, and no listed value that
does not compile makes a comparison true.  There is one exception: the frame is put around a pattern as text, so
a pattern that closes a group that it never opened may complete the frame in a different way.  Such a pattern
matches parts of a resource, since an alternative can reach out of the group of the frame.
-/

namespace AccessDecision

open Condition (Operands valueTest? evaluateCompare evaluateCompare_of_error evaluateCompare_of_ok compare
  designator literal)

variable {operands : Operands} {test : Comparison} {pattern : String}

/-! ## Listed values -/

/-- Whether some attribute value passes the test of one listed value. -/
def Condition.Operands.passes [PatternLimit] (operands : Operands) (test : Comparison) (matcher : String) : Bool :=
  (valueTest? test matcher).any fun passes =>
    operands.attributes.any fun found => found.values.any fun value => passes (operands.normalize value)

/-- A comparison that is true is true through one of its listed values. -/
theorem exists_passes_of_evaluate [PatternLimit] {principal : Principal} {args : List Condition}
    (h : (compare test args).evaluate principal = .ok true) :
    ∃ operands, Operands.of principal test args = .ok operands ∧
      ∃ matcher ∈ operands.matchers, operands.passes test matcher = true := by
  have hcompare : evaluateCompare principal test args = .ok true := h
  cases hof : Operands.of principal test args with
  | error e =>
    rw [evaluateCompare_of_error hof] at hcompare
    cases hcompare
  | ok operands =>
    rw [evaluateCompare_of_ok hof] at hcompare
    split_ifs at hcompare
    exact ⟨operands, rfl, List.any_eq_true.mp (Except.ok.inj hcompare)⟩

theorem passes_regex_iff [PatternLimit] : operands.passes .regex pattern = true ↔
    ∃ r, Pattern.compileAnchored? pattern = some r ∧
      ∃ found ∈ operands.attributes, ∃ value ∈ found.values, r.matchesText (operands.normalize value) = true := by
  unfold Condition.Operands.passes valueTest?
  cases Pattern.compileAnchored? pattern <;> simp

/-! ## What an invalid pattern matches -/

theorem resourceMatches_iff [PatternLimit] {resource : String} : resourceMatches resource pattern = true ↔
    resource = pattern ∨ ∃ r, Pattern.compileAnchored? pattern = some r ∧ r.matchesText resource = true := by
  unfold resourceMatches
  cases Pattern.compileAnchored? pattern <;> simp

/-- **An invalid pattern matches by equality only, unless it closes a group that it never opened.** In that case
it matches what the frame that it completes matches.  A comparison is true through an invalid pattern under the
same condition only. -/
theorem resourceMatches_of_invalid [PatternLimit] (hinvalid : Pattern.compile? pattern.toList = none) :
    (∀ resource, resourceMatches resource pattern = true ↔ resource = pattern ∨
      Pattern.ClosesUnopened pattern.toList ∧
        ∃ r, Pattern.compileAnchored? pattern = some r ∧ r.matchesText resource = true) ∧
      (∀ operands : Operands, operands.passes .regex pattern = true ↔
        Pattern.ClosesUnopened pattern.toList ∧ ∃ r, Pattern.compileAnchored? pattern = some r ∧
          ∃ found ∈ operands.attributes, ∃ value ∈ found.values, r.matchesText (operands.normalize value) = true) ∧
      ∀ principal args, (compare .regex args).evaluate principal = .ok true →
        ∃ operands, Operands.of principal .regex args = .ok operands ∧
          ∃ matcher ∈ operands.matchers, operands.passes .regex matcher = true ∧
            (matcher = pattern → Pattern.ClosesUnopened pattern.toList) := by
  -- a pattern that is no pattern by itself gets one only by reaching out of the frame
  have hunopened : ∀ r, Pattern.compileAnchored? pattern = some r → Pattern.ClosesUnopened pattern.toList := by
    intro r hr
    by_contra hnot
    rw [Pattern.compileAnchored?_of_invalid hinvalid hnot] at hr
    cases hr
  refine ⟨fun resource => ?_, fun operands => ?_, fun principal args h => ?_⟩
  · rw [resourceMatches_iff]
    constructor
    · rintro (heq | ⟨r, hr, hmatch⟩)
      · exact Or.inl heq
      · exact Or.inr ⟨hunopened r hr, r, hr, hmatch⟩
    · rintro (heq | ⟨-, hmatch⟩)
      · exact Or.inl heq
      · exact Or.inr hmatch
  · rw [passes_regex_iff]
    constructor
    · rintro ⟨r, hr, hmatch⟩
      exact ⟨hunopened r hr, r, hr, hmatch⟩
    · exact And.right
  · obtain ⟨operands, hof, matcher, hmem, hpasses⟩ := exists_passes_of_evaluate h
    refine ⟨operands, hof, matcher, hmem, hpasses, ?_⟩
    rintro rfl
    obtain ⟨r, hr, -⟩ := passes_regex_iff.mp hpasses
    exact hunopened r hr

/-- A pattern that is invalid by itself may match a resource that differs from it. -/
theorem unopened_group_matches :
    Pattern.compile? "a)|(?:b".toList = none ∧ resourceMatches "ax" "a)|(?:b" = true ∧
      (compare .regex [designator "role", literal ["a)|(?:b"]]).evaluate
        ⟨"reader", fun id => if id = "role" then some ⟨"role", ["ax"]⟩ else none⟩ = .ok true := by
  exact ⟨by decide, by decide, rfl⟩

/-- A bracket that is never closed covers only itself. -/
theorem resourceMatches_open_bracket :
    Pattern.compile? "[a".toList = none ∧ (∀ resource, resourceMatches resource "[a" = true ↔ resource = "[a") ∧
      ∀ operands : Operands, operands.passes .regex "[a" = false := by
  have hinvalid : Pattern.compile? "[a".toList = none := by decide
  have hnone : Pattern.compileAnchored? "[a" = none := by decide
  obtain ⟨hresource, hpasses, -⟩ := resourceMatches_of_invalid hinvalid
  refine ⟨hinvalid, fun resource => ?_, fun operands => ?_⟩
  · rw [hresource, hnone]
    simp
  · rw [← Bool.not_eq_true, hpasses, hnone]
    simp

end AccessDecision
