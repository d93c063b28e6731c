import AccessDecision.Pattern.Size
import AccessDecision.Proofs.Pattern.Comments
import AccessDecision.Proofs.Pattern.Invalid
import AccessDecision.Proofs.Pattern.Matching

/-!
# Valid patterns

A pattern that compiles by itself keeps its meaning as a whole-text pattern, if the frame can be put around it
(`TakesFrame`): the pattern does not end in a comment, it leaves two levels of nesting for the frame, and it
leaves room for the conditions of the frame.  Any other valid pattern is lost: it covers only the resource with
its own text, and as a listed value it makes no comparison true.
-/

namespace AccessDecision

open Condition (Operands)

variable {pattern : String}

namespace Pattern

variable [PatternLimit]

/-- The frame for whole texts can be put around a pattern. -/
structure TakesFrame (pattern : List Char) : Prop where
  open_line : ¬ EndsInComment pattern
  shallow : ∀ node, parseTree? pattern = some node → node.depth + 2 ≤ maxDepth
  small : ∀ r, compile? pattern = some r → PatternLimit.fits r.framed = true

/-- A regular expression matches a text from its start to its end. -/
def Regex.Covers (r : Regex) (text : String) : Prop :=
  r.Matches Text.Property.word text.toList 0 text.toList.length

/-- What a valid pattern was made from. -/
theorem exists_node_of_compile? {cs : List Char} {r : Regex} (h : compile? cs = some r) :
    ∃ node, parseTree? cs = some node ∧ node.toRegex? = some r ∧ r.isOrdered = true := by
  obtain ⟨node, hparse, h⟩ := Option.bind_eq_some_iff.mp h
  obtain ⟨r', hregex, h⟩ := Option.bind_eq_some_iff.mp h
  split_ifs at h
  obtain rfl := Option.some.inj h
  obtain ⟨tree, htree, hparse⟩ := Option.bind_eq_some_iff.mp hparse
  split_ifs at hparse
  obtain rfl := Option.some.inj hparse
  obtain ⟨⟨inner, f⟩, hmeaning, heq⟩ := Option.map_eq_some_iff.mp hregex
  obtain rfl : inner = r' := heq
  exact ⟨tree, htree, hregex, tree.isOrdered_regex? (isOrdered_of_parseTree? htree) hmeaning⟩

theorem compile?_of_parseTree? {cs : List Char} {node : Node} (h : parseTree? cs = some node) :
    compile? cs = if node.depth ≤ maxDepth then
      node.toRegex?.bind fun r => if PatternLimit.fits r then some r else none else none := by
  unfold compile? parse?
  rw [h]
  simp only [Option.bind_eq_bind, Option.bind_some]
  split_ifs <;> rfl

/-- **A valid pattern compiles for whole texts just when it takes the frame**, and then to its own regular
expression between the conditions of the frame. -/
theorem compileAnchored?_of_valid {r whole : Regex} (hvalid : compile? pattern.toList = some r) :
    compileAnchored? pattern = some whole ↔ TakesFrame pattern.toList ∧ whole = r.framed := by
  obtain ⟨node, hnode, hregex, -⟩ := exists_node_of_compile? hvalid
  rcases parseTree?_anchor_of_parsed hnode with ⟨hframed, hopen⟩ | ⟨hnone, hcomment⟩
  · -- the frame adds two levels and its conditions, and either can be too much
    have hcompile : compileAnchored? pattern =
        if node.depth + 2 ≤ maxDepth then if PatternLimit.fits r.framed then some r.framed else none
        else none := by
      unfold compileAnchored?
      rw [compile?_of_parseTree? hframed, Node.depth_framed, Node.toRegex?_framed, hregex]
      rfl
    rw [hcompile]
    constructor
    · intro h
      split_ifs at h with hdepth hfits
      refine ⟨⟨hopen, fun node' hnode' => ?_, fun r' hr' => ?_⟩, (Option.some.inj h).symm⟩
      · rw [hnode] at hnode'
        exact Option.some.inj hnode' ▸ hdepth
      · rw [hvalid] at hr'
        exact Option.some.inj hr' ▸ hfits
    · rintro ⟨⟨-, hshallow, hsmall⟩, rfl⟩
      rw [if_pos (hshallow node hnode), if_pos (hsmall r hvalid)]
  · constructor
    · intro h
      unfold compileAnchored? compile? parse? at h
      rw [hnone] at h
      cases h
    · rintro ⟨⟨hopen, -, -⟩, -⟩
      exact absurd hcomment hopen

/-- A valid pattern that takes the frame matches whole texts. -/
theorem matchesText_framed_of_valid {r : Regex} (hvalid : compile? pattern.toList = some r) (text : String) :
    r.framed.matchesText text = true ↔ r.Covers text := by
  obtain ⟨-, -, -, hordered⟩ := exists_node_of_compile? hvalid
  exact Regex.matchesText_framed hordered

/-- The whole-text form of a valid pattern exists and has a property just when the pattern takes the frame and its
framed form has the property. -/
theorem exists_compileAnchored?_iff {r : Regex} {p : Regex → Prop} (hvalid : compile? pattern.toList = some r) :
    (∃ whole, compileAnchored? pattern = some whole ∧ p whole) ↔ TakesFrame pattern.toList ∧ p r.framed := by
  constructor
  · rintro ⟨whole, hwhole, hp⟩
    obtain ⟨htakes, rfl⟩ := (compileAnchored?_of_valid hvalid).mp hwhole
    exact ⟨htakes, hp⟩
  · rintro ⟨htakes, hp⟩
    exact ⟨r.framed, (compileAnchored?_of_valid hvalid).mpr ⟨htakes, rfl⟩, hp⟩

end Pattern

open Pattern (TakesFrame)

/-- **A valid pattern keeps its meaning for whole texts just when it takes the frame.** It then covers the
resources that it matches from start to end, and makes a comparison true through the values that it matches from
start to end. Without the frame it covers only its own text and makes no comparison true. -/
theorem resourceMatches_of_valid [PatternLimit] {r : Pattern.Regex}
    (hvalid : Pattern.compile? pattern.toList = some r) :
    ((Pattern.compileAnchored? pattern).isSome = true ↔ TakesFrame pattern.toList) ∧
      (∀ whole, Pattern.compileAnchored? pattern = some whole →
        ∀ text, whole.matchesText text = true ↔ r.Covers text) ∧
      (∀ resource, resourceMatches resource pattern = true ↔
        resource = pattern ∨ TakesFrame pattern.toList ∧ r.Covers resource) ∧
      ∀ operands : Operands, operands.passes .regex pattern = true ↔ TakesFrame pattern.toList ∧
        ∃ found ∈ operands.attributes, ∃ value ∈ found.values, r.Covers (operands.normalize value) := by
  refine ⟨?_, fun whole hwhole text => ?_, fun resource => ?_, fun operands => ?_⟩
  · rw [Option.isSome_iff_exists]
    have hiff := Pattern.exists_compileAnchored?_iff (p := fun _ => True) hvalid
    simpa only [and_true] using hiff
  · obtain ⟨-, rfl⟩ := (Pattern.compileAnchored?_of_valid hvalid).mp hwhole
    exact Pattern.matchesText_framed_of_valid hvalid text
  · rw [resourceMatches_iff, Pattern.exists_compileAnchored?_iff hvalid,
      Pattern.matchesText_framed_of_valid hvalid]
  · rw [passes_regex_iff, Pattern.exists_compileAnchored?_iff hvalid]
    simp only [Pattern.matchesText_framed_of_valid hvalid]

/-- The branches of a pattern are covered as a whole. -/
theorem resourceMatches_branches : ∃ r, Pattern.compile? "/a|/b".toList = some r ∧
    (Pattern.compileAnchored? "/a|/b").isSome = true ∧
    ∀ resource, resourceMatches resource "/a|/b" = true ↔ resource = "/a|/b" ∨ r.Covers resource := by
  obtain ⟨r, hr⟩ := Option.isSome_iff_exists.mp (by decide : (Pattern.compile? "/a|/b".toList).isSome = true)
  obtain ⟨hsome, -, hresource, -⟩ := resourceMatches_of_valid hr
  have htakes : (Pattern.compileAnchored? "/a|/b").isSome = true := by decide
  refine ⟨r, hr, htakes, fun resource => ?_⟩
  rw [hresource, and_iff_right (hsome.mp htakes)]

/-- A comment at the end of a valid pattern takes the end of the frame with it, and the pattern is lost. -/
theorem comment_takes_frame : ∃ r, Pattern.compile? "(?x)a#c".toList = some r ∧ r.Covers "a" ∧
    Pattern.EndsInComment "(?x)a#c".toList ∧ Pattern.compileAnchored? "(?x)a#c" = none ∧
    resourceMatches "a" "(?x)a#c" = false := by
  refine ⟨.cat .empty (.set (.single 'a')), rfl, ?_, ?_, by decide, by decide⟩
  · exact .cat (.empty (by decide)) (.set rfl (by decide))
  · have hparses : (Pattern.parseTree? "(?x)a#c".toList).isSome = true := by decide
    obtain ⟨node, hnode⟩ := Option.isSome_iff_exists.mp hparses
    have hlost : Pattern.parseTree? (Pattern.anchor "(?x)a#c") = none := by decide
    rcases Pattern.parseTree?_anchor_of_parsed hnode with ⟨hframed, -⟩ | ⟨-, hcomment⟩
    · rw [hlost] at hframed
      cases hframed
    · exact hcomment

end AccessDecision
