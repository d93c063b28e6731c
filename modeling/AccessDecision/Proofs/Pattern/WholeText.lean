import AccessDecision.Proofs.Pattern.Bounds

/-!
# Compiling whole-text patterns

A pattern is compiled for whole texts by putting the ends of the frame around its text.  If the pattern closes
only what it opened, the result is the pattern's own regular expression between two conditions on the text
(`Regex.framed`), and the pattern compiles by itself (`exists_compile?_of_compileAnchored?`): the frame only adds
to its nesting and to its size.  A pattern that closes a group that it never opened never compiles by itself
(`compile?_of_closesUnopened`).
-/

namespace AccessDecision.Pattern

variable {pattern : String} {node : Node} {r : Regex}

theorem Node.depth_framed (node : Node) : node.framed.depth = node.depth + 2 := by
  simp [Node.framed, Node.depth, Node.depthOf]

theorem Flags.change_none (f : Flags) : f.change ⟨[], []⟩ = f := rfl

theorem Node.toRegex?_framed (node : Node) : node.framed.toRegex? = node.toRegex?.map Regex.framed := by
  unfold Node.toRegex? Node.framed
  show Option.map _ (Node.concatRegex? .initial [_, _, _]) = _
  simp only [Node.concatRegex?, Node.regex?, Option.bind_eq_bind, Option.bind_some, Flags.change_none]
  cases node.regex? .initial <;> rfl

variable [PatternLimit]

/-- **A whole-text pattern that compiles either closes a group that it never opened, or compiles by itself.** -/
theorem exists_compile?_of_compileAnchored? (h : compileAnchored? pattern = some r)
    (hunopened : ¬ ClosesUnopened pattern.toList) :
    ∃ inner, compile? pattern.toList = some inner ∧ r = inner.framed := by
  obtain ⟨whole, hparse, h⟩ := Option.bind_eq_some_iff.mp h
  obtain ⟨r', hregex, h⟩ := Option.bind_eq_some_iff.mp h
  split_ifs at h with hfits
  obtain rfl := Option.some.inj h
  obtain ⟨tree, htree, hparse⟩ := Option.bind_eq_some_iff.mp hparse
  split_ifs at hparse with hdepth
  obtain rfl := Option.some.inj hparse
  obtain ⟨node, hnode, rfl⟩ := parseTree?_anchor htree hunopened
  rw [Node.toRegex?_framed] at hregex
  obtain ⟨inner, hinner, rfl⟩ := Option.map_eq_some_iff.mp hregex
  -- the pattern alone is less deep than the frame with it, and smaller
  have hparse : parse? pattern.toList = some node := by
    rw [Node.depth_framed] at hdepth
    unfold parse?
    rw [hnode]
    simp only [Option.bind_eq_bind, Option.bind_some]
    rw [if_pos (by omega)]
    rfl
  refine ⟨inner, ?_, rfl⟩
  unfold compile?
  rw [hparse]
  simp [hinner, PatternLimit.fits_of_framed inner hfits]

theorem compile?_of_closesUnopened {cs : List Char} (h : ClosesUnopened cs) : compile? cs = none := by
  unfold compile? parse?
  rw [parseTree?_of_closesUnopened h]
  rfl

theorem compileAnchored?_of_invalid (hinvalid : compile? pattern.toList = none)
    (hunopened : ¬ ClosesUnopened pattern.toList) : compileAnchored? pattern = none := by
  rw [Option.eq_none_iff_forall_ne_some]
  intro r h
  obtain ⟨inner, hinner, -⟩ := exists_compile?_of_compileAnchored? h hunopened
  rw [hinvalid] at hinner
  cases hinner

end AccessDecision.Pattern
