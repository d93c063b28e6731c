import AccessDecision.Pattern.Compile
import AccessDecision.Proofs.Pattern.Runs

/-!
# The bounds of repetitions

Every repetition of a pattern that was parsed has its bounds in order (`isOrdered_of_parseTree?`): each token
has, and no step of the machine makes a repetition of its own.  The order stays when flags are worked in
(`Node.isOrdered_regex?`), where matching by sets of places needs it (`Regex.isMatch_iff`).
-/

namespace AccessDecision.Pattern

/-! ## Definitions -/

/-- Whether the upper bound, if there is one, is no less than the lower bound. -/
def inOrder (min : Nat) (max : Option Nat) : Bool := max.all fun max => min ≤ max

mutual

/-- Whether all repetitions in a pattern have their bounds in order. -/
def Node.isOrdered : Node → Bool
  | .repetition min max inner => inOrder min max && inner.isOrdered
  | .capture inner | .group _ inner => inner.isOrdered
  | .alternation nodes | .concat nodes => Node.areOrdered nodes
  | _ => true

/-- Whether all repetitions in a row of patterns have their bounds in order. -/
def Node.areOrdered : List Node → Bool
  | [] => true
  | node :: rest => node.isOrdered && Node.areOrdered rest

end

/-- Whether all repetitions in a regular expression have their bounds in order. -/
def Regex.isOrdered : Regex → Bool
  | .repeats min max r => inOrder min max && r.isOrdered
  | .cat r s | .alt r s => r.isOrdered && s.isOrdered
  | .capture r => r.isOrdered
  | .empty | .set _ | .look _ => true

/-- All parts and branches of a level have their bounds in order. -/
structure Level.IsOrdered (level : Level) : Prop where
  parts : Node.areOrdered level.parts = true
  branches : Node.areOrdered level.branches = true

/-- All levels of a state have their bounds in order. -/
structure State.IsOrdered (s : State) : Prop where
  level : s.level.IsOrdered
  stack : ∀ group ∈ s.stack, group.outer.IsOrdered

/-- A token brings its bounds in order. -/
def Token.isOrdered : Token → Bool
  | .repetition min max => inOrder min max
  | .part node => node.isOrdered
  | .opening _ | .close | .branch => true

/-! ## Tokens -/

section Tokens

variable {verbose : Bool} {cs rest : List Char} {node : Node}

theorem classLoop?_eq_bracketed {fuel : Nat} {stack : List ClassFrame} {items : List ClassSet}
    (h : classLoop? verbose fuel stack items cs = some (node, rest)) :
    ∃ negated inner, node = .bracketed negated inner := by
  induction fuel generalizing stack items cs with
  | zero => cases h
  | succ fuel ih =>
    rcases classLoop?_succ_eq_some_iff.mp h with ⟨set, _, negated, -, -, rfl⟩ | ⟨_, _, _, -, h⟩
    · exact ⟨negated, set, rfl⟩
    · exact ih h

theorem isOrdered_of_bracketed? (h : bracketed? verbose cs = some (node, rest)) : node.isOrdered = true := by
  obtain ⟨found, -, h⟩ := Option.bind_eq_some_iff.mp h
  obtain ⟨negated, inner, rfl⟩ := classLoop?_eq_bracketed h
  rfl

theorem Primitive.isOrdered_toNode (primitive : Primitive) : primitive.toNode.isOrdered = true := by
  cases primitive <;> rfl

theorem BoundsRead.inOrder {least min : Nat} {max : Option Nat} (h : BoundsRead verbose least cs min max rest) :
    inOrder min max = true := by
  cases h with
  | exactly => simp [Pattern.inOrder]
  | atLeast _ => rfl
  | between _ hle => simpa [Pattern.inOrder] using hle

theorem token?_isOrdered {c : Char} {token : Token} (h : token? verbose c cs = some (token, rest)) :
    token.isOrdered = true := by
  cases token?_eq_some_iff.mp h with
  | bracketed hnode => exact isOrdered_of_bracketed? hnode
  | sign hsign =>
    simp only [repetitionSigns, List.mem_cons, Prod.mk.injEq, List.not_mem_nil, or_false] at hsign
    rcases hsign with ⟨-, rfl, rfl⟩ | ⟨-, rfl, rfl⟩ | ⟨-, rfl, rfl⟩ <;> rfl
  | bounds hbounds =>
    rw [bounds?_eq_bind] at hbounds
    obtain ⟨found, -, hbounds⟩ := Option.bind_eq_some_iff.mp hbounds
    exact (boundsFrom?_eq_some_iff.mp hbounds).inOrder
  | escape _ => exact Primitive.isOrdered_toNode _
  | plain =>
    unfold Token.isOrdered plainNode
    split_ifs <;> rfl
  | opening _ | close | branch => rfl

end Tokens

/-! ## States -/

section States

variable {s t : State}

theorem Node.areOrdered_iff {nodes : List Node} :
    Node.areOrdered nodes = true ↔ ∀ node ∈ nodes, node.isOrdered = true := by
  induction nodes with
  | nil => simp [Node.areOrdered]
  | cons node nodes ih => simp [Node.areOrdered, ih]

theorem Node.isOrdered_ofParts {nodes : List Node} (h : Node.areOrdered nodes = true) :
    (Node.ofParts nodes).isOrdered = true := by
  match nodes with
  | [] => rfl
  | [node] => exact Node.areOrdered_iff.mp h node List.mem_cons_self
  | _ :: _ :: _ => exact h

theorem Node.isOrdered_ofBranches {nodes : List Node} (h : Node.areOrdered nodes = true) :
    (Node.ofBranches nodes).isOrdered = true := by
  match nodes with
  | [] => rfl
  | [node] => exact Node.areOrdered_iff.mp h node List.mem_cons_self
  | _ :: _ :: _ => exact h

theorem Node.areOrdered_reverse {nodes : List Node} (h : Node.areOrdered nodes = true) :
    Node.areOrdered nodes.reverse = true := by
  rw [Node.areOrdered_iff] at h ⊢
  intro node hnode
  exact h node (List.mem_reverse.mp hnode)

theorem Node.areOrdered_cons {node : Node} {nodes : List Node} (hnode : node.isOrdered = true)
    (h : Node.areOrdered nodes = true) : Node.areOrdered (node :: nodes) = true := by
  simp [Node.areOrdered, hnode, h]

theorem Level.IsOrdered.push {level : Level} (h : level.IsOrdered) {node : Node} (hnode : node.isOrdered = true) :
    (level.push node).IsOrdered :=
  ⟨Node.areOrdered_cons hnode h.parts, h.branches⟩

theorem Level.IsOrdered.toNode {level : Level} (h : level.IsOrdered) : level.toNode.isOrdered = true := by
  have hlast := Node.isOrdered_ofParts (Node.areOrdered_reverse h.parts)
  exact Node.isOrdered_ofBranches (Node.areOrdered_reverse (Node.areOrdered_cons hlast h.branches))

theorem State.IsOrdered.openGroup (h : s.IsOrdered) (change : Option FlagChange) :
    (s.openGroup change).IsOrdered := by
  refine ⟨⟨rfl, rfl⟩, ?_⟩
  intro group hgroup
  rcases List.mem_cons.mp hgroup with rfl | hgroup
  · exact h.level
  · exact h.stack group hgroup

theorem State.IsOrdered.closeGroup? (h : s.IsOrdered) (hclose : s.closeGroup? = some t) : t.IsOrdered := by
  unfold State.closeGroup? at hclose
  split at hclose
  · cases hclose
  · rename_i group rest hstack
    have houter := h.stack group (hstack ▸ List.mem_cons_self)
    have hinner := h.level.toNode
    obtain rfl := Option.some.inj hclose
    refine ⟨houter.push ?_, fun g hg => h.stack g (hstack ▸ List.mem_cons_of_mem _ hg)⟩
    cases group.change <;> exact hinner

theorem State.IsOrdered.repeat? (h : s.IsOrdered) {min : Nat} {max : Option Nat} (hbounds : inOrder min max = true)
    (hrepeat : s.repeat? min max = some t) : t.IsOrdered := by
  unfold State.repeat? at hrepeat
  split at hrepeat
  · cases hrepeat
  · cases hrepeat
  · rename_i node rest _ hparts
    have hall := h.level.parts
    rw [hparts, Node.areOrdered, Bool.and_eq_true] at hall
    obtain rfl := Option.some.inj hrepeat
    refine ⟨⟨Node.areOrdered_cons ?_ hall.2, h.level.branches⟩, h.stack⟩
    simp [Node.isOrdered, hbounds, hall.1]

/-- A token leaves the bounds of a state in order. -/
theorem State.IsOrdered.take? (h : s.IsOrdered) {token : Token} (htoken : token.isOrdered = true)
    (htake : s.take? token = some t) : t.IsOrdered := by
  match token with
  | .opening .capture | .opening (.group _) =>
    obtain rfl := Option.some.inj htake
    exact h.openGroup _
  | .opening (.named name) =>
    simp only [State.take?] at htake
    split_ifs at htake
    obtain rfl := Option.some.inj htake
    have hnamed : State.IsOrdered { s with names := name :: s.names } := ⟨h.level, h.stack⟩
    exact hnamed.openGroup none
  | .opening (.flags change) =>
    obtain rfl := Option.some.inj htake
    exact ⟨h.level.push rfl, h.stack⟩
  | .close => exact h.closeGroup? htake
  | .branch =>
    obtain rfl := Option.some.inj htake
    -- what was read since the last branch becomes a branch of its own
    have hlast := Node.isOrdered_ofParts (Node.areOrdered_reverse h.level.parts)
    exact ⟨⟨rfl, Node.areOrdered_cons hlast h.level.branches⟩, h.stack⟩
  | .repetition min max => exact h.repeat? htoken htake
  | .part node =>
    obtain rfl := Option.some.inj htake
    exact ⟨h.level.push htoken, h.stack⟩

/-- A run leaves the bounds of a state in order. -/
theorem State.IsOrdered.run (h : s.IsOrdered) {fuel : Nat} {cs : List Char} (hrun : State.run fuel s cs = some t) :
    t.IsOrdered := by
  induction fuel using Nat.strongRecOn generalizing s cs with
  | _ fuel ih =>
    cases hskip : skip s.verbose cs with
    | nil =>
      rw [State.run_of_skip_nil hskip] at hrun
      exact Option.some.inj hrun ▸ h
    | cons c rest =>
      obtain ⟨fuel', token, after, u, rfl, htoken, htake, hrun⟩ := State.exists_token_of_run hskip hrun
      exact ih fuel' (Nat.lt_succ_self fuel') (h.take? (token?_isOrdered htoken) htake) hrun

/-- **Whatever is parsed has the bounds of its repetitions in order.** -/
theorem isOrdered_of_parseTree? {cs : List Char} {node : Node} (h : parseTree? cs = some node) :
    node.isOrdered = true := by
  obtain ⟨t, hrun, h⟩ := Option.bind_eq_some_iff.mp h
  split_ifs at h
  obtain rfl := Option.some.inj h
  have hstart : State.start.IsOrdered := ⟨⟨rfl, rfl⟩, fun _ hgroup => nomatch hgroup⟩
  exact (hstart.run hrun).level.toNode

end States

/-! ## Regular expressions -/

mutual

theorem Node.isOrdered_regex? (node : Node) {f g : Flags} {r : Regex} (hnode : node.isOrdered = true)
    (h : node.regex? f = some (r, g)) : r.isOrdered = true := by
  match node with
  | .empty | .flags _ | .anchor _ =>
    cases h
    rfl
  | .literal l =>
    obtain ⟨s, hs, heq⟩ := Option.map_eq_some_iff.mp h
    cases heq
    unfold Flags.literal? at hs
    split_ifs at hs
    cases hs
    rfl
  | .dot =>
    obtain ⟨s, hs, heq⟩ := Option.map_eq_some_iff.mp h
    cases heq
    unfold Flags.dot? at hs
    split_ifs at hs
    all_goals
      cases hs
      rfl
  | .letterClass _ _ | .property _ _ =>
    obtain ⟨s, -, heq⟩ := Option.map_eq_some_iff.mp h
    cases heq
    rfl
  | .bracketed _ _ =>
    obtain ⟨s, -, h⟩ := Option.bind_eq_some_iff.mp h
    obtain ⟨s', -, h⟩ := Option.bind_eq_some_iff.mp h
    cases h
    rfl
  | .repetition min max inner =>
    rw [Node.isOrdered, Bool.and_eq_true] at hnode
    obtain ⟨⟨r', f'⟩, hinner, h⟩ := Option.bind_eq_some_iff.mp h
    cases h
    -- only here bounds come in, and they are those of the node
    simp [Regex.isOrdered, hnode.1, inner.isOrdered_regex? hnode.2 hinner]
  | .capture inner =>
    obtain ⟨⟨r', f'⟩, hinner, h⟩ := Option.bind_eq_some_iff.mp h
    cases h
    show r'.isOrdered = true
    exact inner.isOrdered_regex? hnode hinner
  | .group change inner =>
    obtain ⟨⟨r', f'⟩, hinner, h⟩ := Option.bind_eq_some_iff.mp h
    cases h
    exact inner.isOrdered_regex? hnode hinner
  | .concat parts => exact Node.isOrdered_concatRegex? parts hnode h
  | .alternation branches => exact Node.isOrdered_alternationRegex? branches hnode h

theorem Node.isOrdered_concatRegex? (parts : List Node) {f g : Flags} {r : Regex}
    (hparts : Node.areOrdered parts = true) (h : Node.concatRegex? f parts = some (r, g)) :
      r.isOrdered = true := by
  match parts with
  | [] =>
    cases h
    rfl
  | [part] =>
    rw [Node.areOrdered, Bool.and_eq_true] at hparts
    exact part.isOrdered_regex? hparts.1 h
  | part :: next :: rest =>
    rw [Node.areOrdered, Bool.and_eq_true] at hparts
    obtain ⟨⟨r', f'⟩, hpart, h⟩ := Option.bind_eq_some_iff.mp h
    obtain ⟨⟨s, f''⟩, hrest, h⟩ := Option.bind_eq_some_iff.mp h
    cases h
    simp [Regex.isOrdered, part.isOrdered_regex? hparts.1 hpart,
      Node.isOrdered_concatRegex? (next :: rest) hparts.2 hrest]

theorem Node.isOrdered_alternationRegex? (branches : List Node) {f g : Flags} {r : Regex}
    (hbranches : Node.areOrdered branches = true) (h : Node.alternationRegex? f branches = some (r, g)) :
    r.isOrdered = true := by
  match branches with
  | [] =>
    cases h
    rfl
  | [branch] =>
    rw [Node.areOrdered, Bool.and_eq_true] at hbranches
    exact branch.isOrdered_regex? hbranches.1 h
  | branch :: next :: rest =>
    rw [Node.areOrdered, Bool.and_eq_true] at hbranches
    obtain ⟨⟨r', f'⟩, hbranch, h⟩ := Option.bind_eq_some_iff.mp h
    obtain ⟨⟨s, f''⟩, hrest, h⟩ := Option.bind_eq_some_iff.mp h
    cases h
    simp [Regex.isOrdered, branch.isOrdered_regex? hbranches.1 hbranch,
      Node.isOrdered_alternationRegex? (next :: rest) hbranches.2 hrest]

end

end AccessDecision.Pattern
