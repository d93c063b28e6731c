import AccessDecision.Proofs.Pattern.Runs
import AccessDecision.Proofs.Pattern.Tails

/-!
# Comments at the end of a pattern

A pattern that parses by itself is parsed inside the frame to what it is by itself, because nothing but a comment
runs on into the text behind it (`State.Reaches.append`).  The last line of a verbose pattern may end in a
comment (`EndsInComment`); then the end of the frame belongs to that comment, and the group of the frame is never
closed (`parseTree?_anchor_of_parsed`).
-/

namespace AccessDecision.Pattern

namespace State

variable {s t u : State} {outer : OpenGroup} {fuel : Nat} {c : Char} {cs rest after ds es : List Char}

/-! ## Runs in steps -/

theorem step_suffix (h : s.step c rest = some (t, after)) : after <:+ rest := by
  rw [step_eq_bind] at h
  obtain ⟨⟨token, after'⟩, htoken, h⟩ := Option.bind_eq_some_iff.mp h
  obtain ⟨t', -, heq⟩ := Option.map_eq_some_iff.mp h
  cases heq
  exact token?_suffix htoken

theorem Reaches.trans (h : s.Reaches cs t ds) (h' : t.Reaches ds u es) : s.Reaches cs u es := by
  induction h with
  | refl => exact h'
  | step hskip hstep _ ih => exact .step hskip hstep (ih h')

/-- From the end of a text the machine goes nowhere. -/
theorem Reaches.of_nil (h : s.Reaches [] t ds) : t = s ∧ ds = [] := by
  cases h with
  | refl => exact ⟨rfl, rfl⟩
  | step hskip _ _ =>
    rw [skip_nil] at hskip
    cases hskip

theorem reaches_of_run (h : State.run fuel s cs = some u) : ∃ ds, s.Reaches cs u ds ∧ skip u.verbose ds = [] := by
  induction fuel using Nat.strongRecOn generalizing s cs with
  | _ fuel ih =>
    cases hskip : skip s.verbose cs with
    | nil =>
      rw [run_of_skip_nil hskip] at h
      obtain rfl := Option.some.inj h
      exact ⟨cs, .refl, hskip⟩
    | cons c rest =>
      obtain ⟨fuel', t, after, rfl, hstep, hrun⟩ := exists_step_of_run hskip h
      obtain ⟨ds, hreaches, hend⟩ := ih fuel' (Nat.lt_succ_self fuel') hrun
      exact ⟨ds, .step hskip hstep hreaches, hend⟩

theorem Reaches.run_eq (h : s.Reaches cs u ds) (hend : skip u.verbose ds = []) (hfuel : cs.length ≤ fuel) :
    State.run fuel s cs = some u := by
  induction h generalizing fuel with
  | refl => exact run_of_skip_nil hend
  | @step s t u c cs rest after ds hskip hstep _ ih =>
    have hlength : (c :: rest).length ≤ cs.length := (hskip ▸ skip_suffix : c :: rest <:+ cs).length_le
    have hafter : after.length ≤ rest.length := (step_suffix hstep).length_le
    rw [List.length_cons] at hlength
    obtain ⟨fuel, rfl⟩ : ∃ n, fuel = n + 1 := ⟨fuel - 1, by omega⟩
    rw [run_of_step hskip hstep]
    exact ih hend (by omega)

/-! ## Runs inside an open group -/

/-- A step that the machine can take, it can take inside a group that stays open. -/
theorem step_inside (h : s.step c rest = some (t, after)) (outer : OpenGroup) :
    (s.inside outer).step c rest = some (t.inside outer, after) := by
  rw [step_eq_bind] at h ⊢
  obtain ⟨⟨token, after'⟩, htoken, h⟩ := Option.bind_eq_some_iff.mp h
  obtain ⟨t', htake, heq⟩ := Option.map_eq_some_iff.mp h
  cases heq
  have hclose : token = .close → s.stack ≠ [] := by
    rintro rfl hs
    rw [take?_close, closeGroup?, hs] at htake
    cases htake
  have htoken : token? (s.inside outer).verbose c rest = some (token, after') := htoken
  rw [htoken, Option.bind_some, take?_inside hclose, htake]
  rfl

theorem Reaches.inside (h : s.Reaches cs t ds) (outer : OpenGroup) :
    (s.inside outer).Reaches cs (t.inside outer) ds := by
  induction h with
  | refl => exact .refl
  | step hskip hstep _ ih => exact .step hskip (step_inside hstep outer) ih

/-! ## Runs with more text behind them -/

/-- A step is taken in the same way with more text, or a comment at its end takes the rest of the line. -/
theorem step_append (h : s.step c rest = some (t, after)) : ReadsOn (s.step c) rest t after := by
  rw [step_eq_bind] at h
  obtain ⟨⟨token, after'⟩, htoken, h⟩ := Option.bind_eq_some_iff.mp h
  obtain ⟨t', htake, heq⟩ := Option.map_eq_some_iff.mp h
  cases heq
  refine (token?_append htoken).lift fun l left hl => ?_
  rw [step_eq_bind, hl, Option.bind_some, htake]
  rfl

/-- **A run to the end of a text stops in front of a parenthesis behind it**, or a comment takes the rest of the
line. -/
theorem Reaches.append (h : s.Reaches cs u ds) (hend : skip u.verbose ds = []) :
    (∀ more, ∃ ds', s.Reaches (cs ++ ')' :: more) u ds' ∧ skip u.verbose ds' = ')' :: more) ∨
      HasOpenSign cs ∧
        ∀ line, '\n' ∉ line → ∃ ds', s.Reaches (cs ++ line) u ds' ∧ skip u.verbose ds' = [] := by
  induction h with
  | @refl s cs =>
    rcases skip_nil_append hend with hclose | ⟨hsign, hline⟩
    · exact Or.inl fun more => ⟨cs ++ ')' :: more, .refl, hclose more⟩
    · exact Or.inr ⟨hsign, fun line hl => ⟨cs ++ line, .refl, hline line hl⟩⟩
  | @step s t u c cs rest after ds hskip hstep hreaches ih =>
    have hrest : rest <:+ cs := suffix_of_cons (hskip ▸ skip_suffix)
    rcases step_append hstep with hgo | ⟨rfl, hsign, hline⟩
    · rcases ih hend with hclose | ⟨hsign, hline⟩
      · refine Or.inl fun more => ?_
        obtain ⟨ds', hreaches', hskip'⟩ := hclose more
        exact ⟨ds', .step (skip_append hskip _) (hgo _ (Or.inr rfl)) hreaches', hskip'⟩
      · refine Or.inr ⟨hsign.of_suffix ((step_suffix hstep).trans hrest), fun line hl => ?_⟩
        obtain ⟨ds', hreaches', hskip'⟩ := hline line hl
        exact ⟨ds', .step (skip_append hskip _) (hgo _ (Or.inl hsign.ne_nil)) hreaches', hskip'⟩
    · -- the step itself reads into the comment, and there is nothing left behind it
      obtain ⟨rfl, rfl⟩ := hreaches.of_nil
      exact Or.inr ⟨hsign.of_suffix hrest,
        fun line hl => ⟨[], .step (skip_append hskip _) (hline line hl) .refl, skip_nil _⟩⟩

end State

/-! ## The end of a pattern -/

variable {pattern : String} {node : Node}

/-- A pattern ends in a comment: there is a number sign in its last line, and whatever is added to that line is
read as nothing. -/
structure EndsInComment (pattern : List Char) : Prop where
  sign : HasOpenSign pattern
  ignored : ∀ line, '\n' ∉ line → parseTree? (pattern ++ line) = parseTree? pattern

theorem exists_reaches_of_parseTree? {cs : List Char} (h : parseTree? cs = some node) :
    ∃ u ds, State.start.Reaches cs u ds ∧ skip u.verbose ds = [] ∧ u.stack = [] ∧ u.level.toNode = node := by
  obtain ⟨u, hrun, h⟩ := Option.bind_eq_some_iff.mp h
  split_ifs at h with hstack
  obtain ⟨ds, hreaches, hend⟩ := State.reaches_of_run hrun
  exact ⟨u, ds, hreaches, hend, List.isEmpty_iff.mp hstack, Option.some.inj h⟩

theorem parseTree?_of_reaches {cs ds : List Char} {u : State} (h : State.start.Reaches cs u ds)
    (hend : skip u.verbose ds = []) : parseTree? cs = if u.stack.isEmpty then some u.level.toNode else none := by
  unfold parseTree?
  rw [h.run_eq hend (Nat.le_refl _)]
  rfl

/-- The beginning of the frame opens its group. -/
theorem reaches_anchor (pattern : String) :
    State.start.Reaches (anchor pattern) (State.start.inside State.frame) (pattern.toList ++ closing) :=
  .step rfl rfl (.step rfl rfl .refl)

/-- The end of the frame closes its group. -/
theorem reaches_closing {u : State} {ds : List Char} (hskip : skip u.verbose ds = closing)
    (hstack : u.stack = []) :
    ∃ v, (u.inside State.frame).Reaches ds v [] ∧ v.stack = [] ∧ v.level.toNode = u.level.toNode.framed := by
  have hclose := State.step_close (u.inside State.frame) ['$']
  rw [State.closeGroup?_inside_frame hstack] at hclose
  exact ⟨_, .step hskip hclose (.step (State.skip_dollar _) rfl .refl), rfl, rfl⟩

/-- **A pattern that parses by itself parses inside the frame**, unless it ends in a comment. -/
theorem parseTree?_anchor_of_parsed (h : parseTree? pattern.toList = some node) :
    parseTree? (anchor pattern) = some node.framed ∧ ¬ EndsInComment pattern.toList ∨
      parseTree? (anchor pattern) = none ∧ EndsInComment pattern.toList := by
  obtain ⟨u, ds, hreaches, hend, hstack, hnode⟩ := exists_reaches_of_parseTree? h
  have hpass : ∀ {more ds'}, State.start.Reaches (pattern.toList ++ more) u ds' → more = closing →
      State.start.Reaches (anchor pattern) (u.inside State.frame) ds' := by
    rintro _ ds' hmore rfl
    exact (reaches_anchor pattern).trans (hmore.inside State.frame)
  rcases hreaches.append hend with hclose | ⟨hsign, hline⟩
  · left
    constructor
    · obtain ⟨ds', hreaches', hskip⟩ := hclose ['$']
      obtain ⟨v, hv, hvstack, hvnode⟩ := reaches_closing hskip hstack
      rw [parseTree?_of_reaches ((hpass hreaches' rfl).trans hv) (skip_nil _), hvstack, hvnode, hnode]
      rfl
    · -- a parenthesis behind the pattern would close a group that was never opened
      rintro ⟨-, hignored⟩
      obtain ⟨ds', hreaches', hskip⟩ := hclose []
      have hunopened : ClosesUnopened (pattern.toList ++ [')']) := ⟨u, ds', [], hreaches', hstack, hskip⟩
      have hsame := hignored [')'] (by decide)
      rw [parseTree?_of_closesUnopened hunopened, h] at hsame
      cases hsame
  · right
    constructor
    · obtain ⟨ds', hreaches', hskip⟩ := hline closing (by decide)
      rw [parseTree?_of_reaches (hpass hreaches' rfl) hskip]
      simp [State.inside]
    · refine ⟨hsign, fun line hl => ?_⟩
      obtain ⟨ds', hreaches', hskip⟩ := hline line hl
      rw [parseTree?_of_reaches hreaches' hskip, parseTree?_of_reaches hreaches hend]

end AccessDecision.Pattern
