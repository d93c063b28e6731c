import AccessDecision.Pattern.Compile
import AccessDecision.Proofs.Pattern.Tokens

/-!
# Runs of the pattern machine

The frame for whole texts opens a group in front of a pattern and closes it behind the pattern.  As long as the
pattern closes only what it opened, the machine takes the same steps inside that group as on the pattern alone,
and the frame closes the group (`run_inside`).  A pattern can reach out of the frame in one way: it closes a
group that it never opened (`ClosesUnopened`).
-/

namespace AccessDecision.Pattern

variable {cs rest : List Char}

/-! ## States inside a group that stays open -/

namespace State

variable {s t : State} {outer : OpenGroup} {token : Token}

/-- The state with one more group open around everything. -/
def inside (s : State) (outer : OpenGroup) : State := { s with stack := s.stack ++ [outer] }

theorem repeat?_stack {min : Nat} {max : Option Nat} (h : s.repeat? min max = some t) : t.stack = s.stack := by
  unfold repeat? at h
  split at h
  · cases h
  · cases h
  · cases h
    rfl

/-- Only a closing parenthesis closes a group. -/
theorem take?_stack (hclose : token ≠ .close) (h : s.take? token = some t) : s.stack <:+ t.stack := by
  match token with
  | .opening .capture | .opening (.group change) =>
    cases h
    exact List.suffix_cons _ _
  | .opening (.named name) =>
    simp only [take?] at h
    split_ifs at h
    cases h
    exact List.suffix_cons _ _
  | .repetition min max => exact repeat?_stack h ▸ List.suffix_refl _
  | .opening (.flags change) | .branch | .part node =>
    cases h
    exact List.suffix_refl _
  | .close => contradiction

theorem take?_close : s.take? .close = s.closeGroup? := rfl

theorem repeat?_inside (min : Nat) (max : Option Nat) :
    (s.inside outer).repeat? min max = (s.repeat? min max).map (·.inside outer) := by
  obtain ⟨⟨parts, branches⟩, stack, verbose, names⟩ := s
  cases parts with
  | nil => rfl
  | cons node parts => cases node <;> rfl

/-- Inside a group that stays open, a token does the same, unless it closes that group. -/
theorem take?_inside (h : token = .close → s.stack ≠ []) :
    (s.inside outer).take? token = (s.take? token).map (·.inside outer) := by
  match token with
  | .opening (.named name) =>
    show (if name ∈ s.names then none else _) = Option.map _ (if name ∈ s.names then none else _)
    split_ifs <;> rfl
  | .close =>
    obtain ⟨level, stack, verbose, names⟩ := s
    cases stack with
    | nil => exact absurd rfl (h rfl)
    | cons group stack => rfl
  | .repetition min max => exact repeat?_inside min max
  | .opening .capture | .opening (.group change) | .opening (.flags change) | .branch | .part node => rfl

end State

/-! ## Runs -/

namespace State

variable {s t u : State} {token : Token} {fuel : Nat} {c : Char} {cs ds : List Char}

/-- The machine comes from one state and text to another in some number of steps. -/
inductive Reaches : State → List Char → State → List Char → Prop where
  | refl {s : State} {cs : List Char} : Reaches s cs s cs
  | step {s t u : State} {c : Char} {cs rest after ds : List Char} :
    skip s.verbose cs = c :: rest → s.step c rest = some (t, after) → Reaches t after u ds → Reaches s cs u ds

/-- The machine comes to a closing parenthesis while no group is open. -/
def ClosesUnopened (s : State) (cs : List Char) : Prop :=
  ∃ t ds rest, s.Reaches cs t ds ∧ t.stack = [] ∧ skip t.verbose ds = ')' :: rest

theorem run_of_skip_nil (h : skip s.verbose cs = []) : State.run fuel s cs = some s := by
  unfold State.run
  rw [h]

/-- A run that is not at its end takes a step. -/
theorem exists_step_of_run (hskip : skip s.verbose cs = c :: rest) (h : State.run fuel s cs = some u) :
    ∃ fuel' t after, fuel = fuel' + 1 ∧ s.step c rest = some (t, after) ∧ State.run fuel' t after = some u := by
  unfold State.run at h
  rw [hskip] at h
  cases fuel with
  | zero => cases h
  | succ fuel =>
    obtain ⟨⟨t, after⟩, hstep, h⟩ := Option.bind_eq_some_iff.mp h
    exact ⟨fuel, t, after, rfl, hstep, h⟩

theorem exists_token_of_run (hskip : skip s.verbose cs = c :: rest) (h : State.run fuel s cs = some u) :
    ∃ fuel' token after t, fuel = fuel' + 1 ∧ token? s.verbose c rest = some (token, after) ∧
      s.take? token = some t ∧ State.run fuel' t after = some u := by
  obtain ⟨fuel', t, after, rfl, hstep, hrun⟩ := exists_step_of_run hskip h
  rw [step_eq_bind] at hstep
  obtain ⟨⟨token, after'⟩, htoken, hstep⟩ := Option.bind_eq_some_iff.mp hstep
  obtain ⟨t', htake, heq⟩ := Option.map_eq_some_iff.mp hstep
  cases heq
  exact ⟨fuel', token, after', t, rfl, htoken, htake, hrun⟩

theorem run_of_step {after : List Char} (hskip : skip s.verbose cs = c :: rest)
    (hstep : s.step c rest = some (t, after)) : State.run (fuel + 1) s cs = State.run fuel t after := by
  generalize hresult : State.run fuel t after = result
  unfold State.run
  rw [hskip]
  simp [hstep, hresult]

theorem Reaches.run (h : s.Reaches cs t ds) (hrun : State.run fuel s cs = some u) :
    ∃ fuel', State.run fuel' t ds = some u := by
  induction h generalizing fuel with
  | refl => exact ⟨fuel, hrun⟩
  | step hskip hstep _ ih =>
    obtain ⟨fuel', t', after', -, hstep', hrun'⟩ := exists_step_of_run hskip hrun
    obtain ⟨rfl, rfl⟩ := Prod.mk.inj (Option.some.inj (hstep.symm.trans hstep'))
    exact ih hrun'

theorem step_close (s : State) (rest : List Char) : s.step ')' rest = s.closeGroup?.map fun t => (t, rest) := rfl

/-- A closing parenthesis that closes nothing ends a run in failure. -/
theorem ClosesUnopened.run_eq_none (h : s.ClosesUnopened cs) : State.run fuel s cs = none := by
  obtain ⟨t, ds, rest, hreaches, hstack, hskip⟩ := h
  rw [Option.eq_none_iff_forall_ne_some]
  intro u hrun
  obtain ⟨fuel', hrun'⟩ := hreaches.run hrun
  obtain ⟨-, t', after, -, hstep, -⟩ := exists_step_of_run hskip hrun'
  have hclose : t.closeGroup? = none := by
    unfold closeGroup?
    rw [hstack]
  rw [step_close, hclose] at hstep
  cases hstep

/-! ## The end of the frame -/

theorem skip_dollar (verbose : Bool) : skip verbose ['$'] = ['$'] := by cases verbose <;> rfl

theorem run_dollar (h : State.run fuel s ['$'] = some u) : u = s.push (.anchor .lineEnd) := by
  obtain ⟨fuel', t, after, -, hstep, hrun⟩ := exists_step_of_run (skip_dollar s.verbose) h
  obtain ⟨rfl, rfl⟩ := Prod.mk.inj (Option.some.inj hstep)
  rw [run_of_skip_nil (skip_nil _)] at hrun
  exact (Option.some.inj hrun).symm

/-- Behind the parenthesis of the frame nothing closes a group. -/
theorem run_stack_of_suffix (hsuffix : cs <:+ ['$']) (h : State.run fuel s cs = some u) : u.stack = s.stack := by
  rcases List.suffix_cons_iff.mp hsuffix with rfl | hnil
  · rw [run_dollar h]
    rfl
  · obtain rfl := List.suffix_nil.mp hnil
    rw [run_of_skip_nil (skip_nil _)] at h
    rw [Option.some.inj h]

/-- A brace that nothing can follow is no repetition. -/
theorem run_leavesBrace (h : LeavesBrace s.verbose rest) : State.run fuel s (rest ++ closing) = none := by
  obtain ⟨blanks, rfl, hblanks⟩ := h
  have hskip : skip s.verbose ('\x7b' :: blanks ++ closing) = '\x7b' :: (blanks ++ closing) := by
    cases s.verbose <;> rfl
  rw [Option.eq_none_iff_forall_ne_some]
  intro u hrun
  obtain ⟨-, t, after, -, hstep, -⟩ := exists_step_of_run hskip hrun
  have hbounds := bounds?_closing hblanks
  have htoken : token? s.verbose '\x7b' (blanks ++ closing) = none := by
    show Option.map _ (bounds? s.verbose (blanks ++ closing)) = none
    rw [hbounds]
    rfl
  rw [step_eq_bind, htoken] at hstep
  cases hstep

/-! ## The pattern inside the frame -/

theorem suffix_closing (h : ds <:+ cs ++ closing) : (∃ before, ds = before ++ closing) ∨ ds <:+ ['$'] := by
  rcases List.suffix_or_suffix_of_suffix h (List.suffix_append cs closing) with hshort | hlong
  · rcases List.suffix_cons_iff.mp hshort with rfl | hend
    · exact Or.inl ⟨[], rfl⟩
    · exact Or.inr hend
  · obtain ⟨before, rfl⟩ := hlong
    exact Or.inl ⟨before, rfl⟩

/-- The group that the frame opens in front of a pattern. -/
def frame : OpenGroup := ⟨⟨[.anchor .lineStart], []⟩, some ⟨[], []⟩, false⟩

theorem closeGroup?_inside_frame (h : s.stack = []) :
    (s.inside frame).closeGroup? =
      some { s with
        level := ⟨[.group ⟨[], []⟩ s.level.toNode, .anchor .lineStart], []⟩
        stack := []
        verbose := false } := by
  obtain ⟨level, stack, verbose, names⟩ := s
  subst h
  rfl

theorem inside_stack_ne_nil (s : State) (outer : OpenGroup) : (s.inside outer).stack ≠ [] :=
  List.append_ne_nil_of_right_ne_nil _ (List.cons_ne_nil outer [])

/-- At the end of the pattern the frame closes the innermost group, which has to be its own. -/
theorem run_inside_closing (hskip : skip s.verbose cs = closing)
    (h : State.run fuel (s.inside frame) cs = some u) (hstack : u.stack = []) :
    s.stack = [] ∧ u.level = ⟨[.anchor .lineEnd, .group ⟨[], []⟩ s.level.toNode, .anchor .lineStart], []⟩ := by
  obtain ⟨fuel', t, after, -, hstep, hrun⟩ := exists_step_of_run (s := s.inside frame) hskip h
  obtain ⟨t', hclose, heq⟩ := Option.map_eq_some_iff.mp hstep
  cases heq
  by_cases hs : s.stack = []
  · rw [closeGroup?_inside_frame hs] at hclose
    obtain rfl := Option.some.inj hclose
    rw [run_dollar hrun]
    exact ⟨hs, rfl⟩
  · rw [← take?_close, take?_inside fun _ => hs] at hclose
    obtain ⟨s', -, rfl⟩ := Option.map_eq_some_iff.mp hclose
    rw [run_stack_of_suffix (List.suffix_refl _) hrun] at hstack
    exact absurd hstack (inside_stack_ne_nil s' frame)

/-- A token of the pattern is taken inside the frame as it is taken outside. -/
theorem exists_step_of_inside {start : List Char} (hunopened : ¬ s.ClosesUnopened cs)
    (hskip : skip s.verbose cs = c :: start) (htoken : token? s.verbose c start = some (token, rest))
    (htake : (s.inside frame).take? token = some u) :
    ∃ t, s.step c start = some (t, rest) ∧ u = t.inside frame ∧ ¬ t.ClosesUnopened rest := by
  have hclose : token = .close → s.stack ≠ [] := by
    rintro rfl hs
    obtain ⟨rfl, -⟩ := token?_eq_close htoken
    exact hunopened ⟨s, cs, start, .refl, hs, hskip⟩
  rw [take?_inside hclose] at htake
  obtain ⟨t, ht, rfl⟩ := Option.map_eq_some_iff.mp htake
  have hstep : s.step c start = some (t, rest) := by
    rw [step_eq_bind, htoken]
    simp [ht]
  refine ⟨t, hstep, rfl, ?_⟩
  rintro ⟨u', ds, rest', hreaches, hs, hds⟩
  exact hunopened ⟨u', ds, rest', .step hskip hstep hreaches, hs, hds⟩

/-- **Inside the frame the machine does what it does on the pattern alone**, unless the pattern closes a group
that it never opened. -/
theorem run_inside {fuel' : Nat} (hfuel : cs.length ≤ fuel') (hunopened : ¬ s.ClosesUnopened cs)
    (h : State.run fuel (s.inside frame) (cs ++ closing) = some u) (hstack : u.stack = []) :
    ∃ t, State.run fuel' s cs = some t ∧ t.stack = [] ∧
      u.level = ⟨[.anchor .lineEnd, .group ⟨[], []⟩ t.level.toNode, .anchor .lineStart], []⟩ := by
  induction fuel using Nat.strongRecOn generalizing s cs fuel' with
  | _ fuel ih =>
    rcases skip_closing s.verbose cs with hnil | ⟨start, hstart⟩
    · -- a comment runs over the end of the frame
      have hrun : State.run fuel (s.inside frame) (cs ++ closing) = some (s.inside frame) := run_of_skip_nil hnil
      rw [Option.some.inj (h.symm.trans hrun)] at hstack
      exact absurd hstack (inside_stack_ne_nil s frame)
    have hskip := skip_of_append hstart
    cases start with
    | nil =>
      -- the pattern has been read, and the end of the frame follows
      obtain ⟨hs, hlevel⟩ := run_inside_closing hstart h hstack
      exact ⟨s, run_of_skip_nil hskip, hs, hlevel⟩
    | cons c start =>
      obtain ⟨fuel₁, token, after, t, rfl, htoken, htake, hrun⟩ :=
        exists_token_of_run (s := s.inside frame) hstart h
      rcases suffix_closing (token?_suffix htoken) with ⟨before, rfl⟩ | hend
      · rcases token?_of_append htoken with htoken | ⟨rfl, hbrace⟩
        · obtain ⟨t, hstep, rfl, hunopened⟩ := exists_step_of_inside hunopened hskip htoken htake
          have hlength : (c :: start).length ≤ cs.length := (hskip ▸ skip_suffix : c :: start <:+ cs).length_le
          have hbefore : before.length ≤ start.length := (token?_suffix htoken).length_le
          rw [List.length_cons] at hlength
          obtain ⟨fuel', rfl⟩ : ∃ n, fuel' = n + 1 := ⟨fuel' - 1, by omega⟩
          rw [run_of_step hskip hstep]
          exact ih fuel₁ (Nat.lt_succ_self fuel₁) (by omega) hunopened hrun
        · -- a brace is left over, which the machine cannot read
          cases htake
          have hnone :
              State.run fuel₁ ((s.inside frame).push (.anchor .wordBoundary)) (before ++ closing) = none :=
            run_leavesBrace hbrace
          cases hnone.symm.trans hrun
      · -- what the step reads beyond the pattern is missing to close the frame
        have hclose : token ≠ .close := by
          rintro rfl
          obtain ⟨-, rfl⟩ := token?_eq_close htoken
          exact not_append_suffix_of_lt (by decide) hend
        have hsuffix := take?_stack hclose htake
        rw [← run_stack_of_suffix hend hrun, hstack] at hsuffix
        exact absurd (List.suffix_nil.mp hsuffix) (inside_stack_ne_nil s frame)

end State

/-! ## Parsing whole-text patterns -/

/-- A pattern closes a group that it never opened. -/
def ClosesUnopened (pattern : List Char) : Prop := State.start.ClosesUnopened pattern

/-- The node of a whole-text pattern. -/
def Node.framed (node : Node) : Node := .concat [.anchor .lineStart, .group ⟨[], []⟩ node, .anchor .lineEnd]

theorem parseTree?_of_closesUnopened {pattern : List Char} (h : ClosesUnopened pattern) :
    parseTree? pattern = none := by
  unfold parseTree?
  rw [h.run_eq_none]
  rfl

/-- What the text between the ends of the frame parses to. -/
theorem parseTree?_anchor {pattern : String} {node : Node} (h : parseTree? (anchor pattern) = some node)
    (hunopened : ¬ ClosesUnopened pattern.toList) :
    ∃ inner, parseTree? pattern.toList = some inner ∧ node = inner.framed := by
  obtain ⟨u, hrun, h⟩ := Option.bind_eq_some_iff.mp h
  split_ifs at h with hstack
  obtain rfl := Option.some.inj h
  have hrun : State.run ((pattern.toList ++ closing).length + 2) (State.start.inside State.frame)
      (pattern.toList ++ closing) = some u := hrun
  obtain ⟨t, ht, hnil, hlevel⟩ := State.run_inside (Nat.le_refl _) hunopened hrun (List.isEmpty_iff.mp hstack)
  refine ⟨t.level.toNode, ?_, ?_⟩
  · unfold parseTree?
    rw [ht]
    simp [hnil]
  · rw [hlevel]
    rfl

end AccessDecision.Pattern
