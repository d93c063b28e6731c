import AccessDecision.Proofs.Pattern.Brackets

/-!
# What the pattern machine reads

One step of the machine is a token that is read from the text and then taken by the state (`State.step_eq_bind`).
Which token stands at the front of a pattern does not depend on the end of the frame, if the token ends in front
of it (`token?_of_append`).  Only a word boundary may end differently: with a brace that nothing can follow.
-/

namespace AccessDecision.Pattern

variable {verbose : Bool} {cs rest tail : List Char}

/-! ## Openings -/

section Openings

variable {change change' : FlagChange} {negated pending isGroup : Bool}

theorem flags?_suffix (h : flags? change negated pending cs = some (change', isGroup, rest)) :
    ∃ c, c :: rest <:+ cs := by
  induction cs generalizing change negated pending with
  | nil => cases h
  | cons c cs ih =>
    unfold flags? at h
    split_ifs at h
    · cases h
      exact ⟨c, List.suffix_refl _⟩
    · obtain ⟨d, hd⟩ := ih h
      exact ⟨d, suffix_cons_of hd⟩
    all_goals
      obtain ⟨flag, -, h⟩ := Option.bind_eq_some_iff.mp h
      split_ifs at h
      obtain ⟨d, hd⟩ := ih h
      exact ⟨d, suffix_cons_of hd⟩

theorem flags?_of_append
    (h : flags? change negated pending (cs ++ tail) = some (change', isGroup, rest ++ tail)) :
    flags? change negated pending cs = some (change', isGroup, rest) := by
  induction cs generalizing change negated pending with
  | nil =>
    -- flags are not empty, so they cannot end where the tail begins
    obtain ⟨d, hd⟩ := flags?_suffix h
    obtain rfl := eq_nil_of_append_suffix (suffix_of_cons hd)
    exact absurd hd not_cons_suffix
  | cons c cs ih =>
    rw [List.cons_append] at h
    unfold flags? at h ⊢
    split_ifs at h ⊢
    · obtain ⟨rfl, heq⟩ := Prod.mk.inj (Option.some.inj h)
      obtain ⟨rfl, hrest⟩ := Prod.mk.inj heq
      rw [List.append_cancel_right hrest]
    · exact ih h
    all_goals
      obtain ⟨flag, hflag, h⟩ := Option.bind_eq_some_iff.mp h
      rw [hflag]
      simp only [Option.bind_eq_bind, Option.bind_some]
      split_ifs at h ⊢
      exact ih h

theorem groupName?_suffix {name : String} (h : groupName? cs = some (name, rest)) : '>' :: rest <:+ cs := by
  unfold groupName? at h
  rw [List.span_eq_takeWhile_dropWhile] at h
  split at h
  · rename_i c start after hspan
    split_ifs at h
    obtain ⟨-, rfl⟩ := Prod.mk.inj (Option.some.inj h)
    have hdrop : cs.dropWhile (· != '>') = '>' :: after := congrArg Prod.snd hspan
    exact hdrop ▸ List.dropWhile_suffix _
  · cases h

theorem groupName?_of_append {name : String} (h : groupName? (cs ++ tail) = some (name, rest ++ tail)) :
    groupName? cs = some (name, rest) := by
  unfold groupName? at h ⊢
  split at h
  · rename_i c start after hspan
    split_ifs at h with hname
    obtain ⟨rfl, rfl⟩ := Prod.mk.inj (Option.some.inj h)
    have hdrop : cs.dropWhile (· != '>') = '>' :: rest := by
      rw [List.span_eq_takeWhile_dropWhile] at hspan
      exact dropWhile_of_append (congrArg Prod.snd hspan)
    rw [span_of_dropWhile hdrop tail] at hspan
    obtain ⟨htake, -⟩ := Prod.mk.inj hspan
    rw [List.span_eq_takeWhile_dropWhile, hdrop, htake]
    simp only
    rw [if_pos hname]
  · cases h

/-- From what an opening is read, once what does not count has been passed over. -/
inductive Opening.Read : List Char → Opening → List Char → Prop where
  | named {cs rest : List Char} {name : String} :
    groupName? cs = some (name, rest) → Read ('?' :: 'P' :: '<' :: cs) (.named name) rest
  | angled {cs rest : List Char} {name : String} :
    (∀ more, cs ≠ '=' :: more) → (∀ more, cs ≠ '!' :: more) → groupName? cs = some (name, rest) →
    Read ('?' :: '<' :: cs) (.named name) rest
  | group {cs rest : List Char} {change : FlagChange} :
    flags? ⟨[], []⟩ false false cs = some (change, true, rest) → Read ('?' :: cs) (.group change) rest
  | flags {cs rest : List Char} {change : FlagChange} :
    flags? ⟨[], []⟩ false false cs = some (change, false, rest) →
    (change.on.isEmpty && change.off.isEmpty) = false → Read ('?' :: cs) (.flags change) rest
  | capture {cs : List Char} : (∀ more, cs ≠ '?' :: more) → Read cs .capture cs

/-- Flags start with none of the signs that other openings start with. -/
theorem not_mem_of_flags? {c : Char}
    (h : flags? change negated pending (c :: cs) = some (change', isGroup, rest)) :
    c ∉ ['=', '!', '<', 'P'] := by
  intro hc
  simp only [List.mem_cons, List.not_mem_nil, or_false] at hc
  rcases hc with rfl | rfl | rfl | rfl <;> simp [flags?, flagOf?] at h

variable {opening : Opening}

theorem opening?_eq_some_iff :
    opening? verbose cs = some (opening, rest) ↔ opening.Read (skip verbose cs) rest := by
  unfold opening?
  generalize skip verbose cs = start
  constructor
  · intro h
    -- the openings that look around come first and are refused
    split at h
    · cases h
    · cases h
    · cases h
    · cases h
    · obtain ⟨⟨name, after⟩, hname, heq⟩ := Option.map_eq_some_iff.mp h
      cases heq
      exact .named hname
    · rename_i hequal hbang
      obtain ⟨⟨name, after⟩, hname, heq⟩ := Option.map_eq_some_iff.mp h
      cases heq
      exact .angled hequal hbang hname
    · obtain ⟨⟨change, isGroup, after⟩, hflags, h⟩ := Option.bind_eq_some_iff.mp h
      simp only at h
      split_ifs at h with hgroup hempty
      · cases h
        exact .group (hgroup ▸ hflags)
      · cases h
        exact .flags (eq_false_of_ne_true hgroup ▸ hflags) (eq_false_of_ne_true hempty)
    · rename_i hquestion
      cases h
      exact .capture hquestion
  · rintro (hname | ⟨hequal, hbang, hname⟩ | @⟨inner, _, _, hflags⟩ | @⟨inner, _, _, hflags, hempty⟩ | hquestion)
    · simp [hname]
    · simp [hname]
    · cases inner with
      | nil => cases hflags
      | cons c inner =>
        have hc := not_mem_of_flags? hflags
        simp only [List.mem_cons, List.not_mem_nil, or_false, not_or] at hc
        simp [hc, hflags]
    · cases inner with
      | nil => cases hflags
      | cons c inner =>
        have hc := not_mem_of_flags? hflags
        simp only [List.mem_cons, List.not_mem_nil, or_false, not_or] at hc
        simpa [hc, hflags] using hempty
    · split <;> first | rfl | exact absurd rfl (hquestion _)

theorem opening?_suffix (h : opening? verbose cs = some (opening, rest)) : rest <:+ skip verbose cs := by
  have hread := opening?_eq_some_iff.mp h
  generalize skip verbose cs = start at hread
  cases hread with
  | named hname =>
    exact suffix_cons_of (suffix_cons_of (suffix_cons_of (suffix_of_cons (groupName?_suffix hname))))
  | angled _ _ hname => exact suffix_cons_of (suffix_cons_of (suffix_of_cons (groupName?_suffix hname)))
  | group hflags | flags hflags _ =>
    obtain ⟨d, hd⟩ := flags?_suffix hflags
    exact suffix_cons_of (suffix_of_cons hd)
  | capture _ => exact List.suffix_refl _

/-- What does not start with given characters does not start with them without its tail. -/
theorem ne_of_append_ne {f : List Char → List Char} (h : ∀ t, cs ++ tail = f t → False)
    (hf : ∀ t, f t ++ tail = f (t ++ tail)) (t : List Char) (heq : cs = f t) : False :=
  h (t ++ tail) (by rw [heq, hf])

theorem Opening.Read.of_append (h : opening.Read (cs ++ tail) (rest ++ tail)) : opening.Read cs rest := by
  generalize hcs : cs ++ tail = l, hrest : rest ++ tail = r at h
  cases h with
  | named hname =>
    subst hrest
    obtain ⟨inner, rfl⟩ := exists_eq_append (suffix_of_cons (groupName?_suffix hname))
    obtain rfl : cs = '?' :: 'P' :: '<' :: inner := List.append_cancel_right hcs
    exact .named (groupName?_of_append hname)
  | angled hequal hbang hname =>
    subst hrest
    obtain ⟨inner, rfl⟩ := exists_eq_append (suffix_of_cons (groupName?_suffix hname))
    obtain rfl : cs = '?' :: '<' :: inner := List.append_cancel_right hcs
    exact .angled (ne_of_append_ne hequal fun _ => rfl) (ne_of_append_ne hbang fun _ => rfl)
      (groupName?_of_append hname)
  | group hflags =>
    subst hrest
    obtain ⟨d, hd⟩ := flags?_suffix hflags
    obtain ⟨inner, rfl⟩ := exists_eq_append (suffix_of_cons hd)
    obtain rfl : cs = '?' :: inner := List.append_cancel_right hcs
    exact .group (flags?_of_append hflags)
  | flags hflags hempty =>
    subst hrest
    obtain ⟨d, hd⟩ := flags?_suffix hflags
    obtain ⟨inner, rfl⟩ := exists_eq_append (suffix_of_cons hd)
    obtain rfl : cs = '?' :: inner := List.append_cancel_right hcs
    exact .flags (flags?_of_append hflags) hempty
  | capture hquestion =>
    subst hcs
    obtain rfl := List.append_cancel_right hrest
    exact .capture (ne_of_append_ne hquestion fun _ => rfl)

theorem opening?_of_append (h : opening? verbose (cs ++ tail) = some (opening, rest ++ tail)) :
    opening? verbose cs = some (opening, rest) := by
  obtain ⟨start, hstart⟩ := exists_eq_append (opening?_suffix h)
  have hread := opening?_eq_some_iff.mp h
  rw [hstart] at hread
  rw [opening?_eq_some_iff, skip_of_append hstart]
  exact hread.of_append

end Openings

/-! ## Repetitions -/

section Repetitions

theorem dropLazy_suffix : dropLazy cs <:+ cs := by
  unfold dropLazy
  split
  · exact List.suffix_cons _ _
  · exact List.suffix_refl _

theorem dropLazy_of_append (h : dropLazy (cs ++ tail) = rest ++ tail) : dropLazy cs = rest := by
  cases cs with
  | nil =>
    have hsuffix : rest ++ tail <:+ tail := h ▸ dropLazy_suffix
    rw [eq_nil_of_append_suffix hsuffix]
    rfl
  | cons c cs =>
    by_cases hc : c = '?'
    · subst hc
      exact List.append_cancel_right h
    · have hkeep : ∀ l, dropLazy (c :: l) = c :: l := by
        intro l
        simp [dropLazy, hc]
      rw [List.cons_append, hkeep] at h
      rw [hkeep]
      exact List.append_cancel_right h

variable {min : Nat} {max : Option Nat}

/-- Reads the bounds of a repetition after the first number. -/
def boundsFrom? (verbose : Bool) (min : Nat) : List Char → Option (Nat × Option Nat × List Char)
  | '\x7d' :: rest => some (min, some min, rest)
  | ',' :: rest =>
    match skip verbose rest with
    | '\x7d' :: rest => some (min, none, rest)
    | rest => do
      let (max, rest) ← decimal? verbose rest
      match rest with
      | '\x7d' :: rest => if min ≤ max then return (min, some max, rest) else none
      | _ => none
  | _ => none

theorem bounds?_eq_bind : bounds? verbose cs =
    (decimal? verbose (skip verbose cs)).bind fun found => boundsFrom? verbose found.1 found.2 := rfl

/-- From what the bounds of a repetition are read after the first number. -/
inductive BoundsRead (verbose : Bool) (least : Nat) : List Char → Nat → Option Nat → List Char → Prop where
  | exactly {rest : List Char} : BoundsRead verbose least ('\x7d' :: rest) least (some least) rest
  | atLeast {cs rest : List Char} :
    skip verbose cs = '\x7d' :: rest → BoundsRead verbose least (',' :: cs) least none rest
  | between {cs rest : List Char} {most : Nat} :
    decimal? verbose (skip verbose cs) = some (most, '\x7d' :: rest) → least ≤ most →
    BoundsRead verbose least (',' :: cs) least (some most) rest

theorem decimal?_brace (rest : List Char) : decimal? verbose ('\x7d' :: rest) = none := by cases verbose <;> rfl

theorem boundsFrom?_eq_some_iff {least : Nat} :
    boundsFrom? verbose least cs = some (min, max, rest) ↔ BoundsRead verbose least cs min max rest := by
  constructor
  · intro h
    unfold boundsFrom? at h
    split at h
    · cases h
      exact .exactly
    · split at h
      · rename_i hskip
        cases h
        exact .atLeast hskip
      · obtain ⟨⟨most, after⟩, hmost, h⟩ := Option.bind_eq_some_iff.mp h
        simp only at h
        split at h
        · split_ifs at h with hle
          cases h
          exact .between hmost hle
        · cases h
    · cases h
  · rintro (_ | hskip | @⟨inner, _, _, hmost, hle⟩)
    · rfl
    · simp [boundsFrom?, hskip]
    · -- what is read as a number does not start with the brace
      have hbrace : ∀ more, skip verbose inner ≠ '\x7d' :: more := by
        intro more hmore
        rw [hmore, decimal?_brace] at hmost
        cases hmost
      simp [boundsFrom?, hmost, hle]

theorem BoundsRead.suffix {least : Nat} (h : BoundsRead verbose least cs min max rest) : rest <:+ cs := by
  cases h with
  | exactly => exact List.suffix_cons _ _
  | atLeast hskip => exact suffix_cons_of (suffix_of_cons (hskip ▸ skip_suffix))
  | between hmost _ => exact suffix_cons_of ((suffix_of_cons (decimal?_suffix hmost)).trans skip_suffix)

theorem BoundsRead.of_append {least : Nat}
    (h : BoundsRead verbose least (cs ++ closing) min max (rest ++ closing)) :
    BoundsRead verbose least cs min max rest := by
  generalize hcs : cs ++ closing = l, hrest : rest ++ closing = r at h
  cases h with
  | exactly =>
    subst hrest
    obtain rfl : cs = '\x7d' :: rest := List.append_cancel_right hcs
    exact .exactly
  | atLeast hskip =>
    subst hrest
    obtain ⟨inner, rfl, rfl⟩ := exists_of_append_closing_eq_cons hcs (by decide)
    exact .atLeast (skip_of_append hskip)
  | between hmost hle =>
    subst hrest
    obtain ⟨inner, rfl, rfl⟩ := exists_of_append_closing_eq_cons hcs (by decide)
    obtain ⟨start, hstart⟩ := exists_eq_append (suffix_of_cons (decimal?_suffix hmost))
    rw [hstart] at hmost
    have hmost : decimal? verbose start = some (_, '\x7d' :: rest) := decimal?_of_append hmost
    rw [← skip_of_append hstart] at hmost
    exact .between hmost hle

theorem bounds?_suffix (h : bounds? verbose cs = some (min, max, rest)) : rest <:+ cs := by
  rw [bounds?_eq_bind] at h
  obtain ⟨⟨least, after⟩, hleast, h⟩ := Option.bind_eq_some_iff.mp h
  exact ((boundsFrom?_eq_some_iff.mp h).suffix.trans (decimal?_suffix hleast)).trans skip_suffix

theorem bounds?_of_append (h : bounds? verbose (cs ++ closing) = some (min, max, rest ++ closing)) :
    bounds? verbose cs = some (min, max, rest) := by
  rw [bounds?_eq_bind] at h ⊢
  obtain ⟨⟨least, after⟩, hleast, h⟩ := Option.bind_eq_some_iff.mp h
  have hread := boundsFrom?_eq_some_iff.mp h
  obtain ⟨after, rfl⟩ := exists_eq_append hread.suffix
  obtain ⟨start, hstart⟩ := exists_eq_append (decimal?_suffix hleast)
  rw [hstart] at hleast
  rw [skip_of_append hstart, decimal?_of_append hleast]
  exact boundsFrom?_eq_some_iff.mpr hread.of_append

/-- Without a number there are no bounds. -/
theorem bounds?_closing (h : skip verbose cs = closing) : bounds? verbose cs = none := by
  rw [bounds?_eq_bind, h]
  cases verbose <;> rfl

end Repetitions

/-! ## Tokens -/

/-- What the machine takes from a pattern in one step. -/
inductive Token where
  | opening (opening : Opening)
  | close
  | branch
  | repetition (min : Nat) (max : Option Nat)
  | part (node : Node)

/-- The node of a character outside brackets that starts nothing longer. -/
def plainNode (c : Char) : Node :=
  if c = '.' then .dot
  else if c = '^' then .anchor .lineStart
  else if c = '$' then .anchor .lineEnd
  else .literal ⟨c, false⟩

/-- Reads the token that starts with `c`. -/
def token? (verbose : Bool) (c : Char) (cs : List Char) : Option (Token × List Char) :=
  if c = '(' then (opening? verbose cs).map fun (opening, rest) => (.opening opening, rest)
  else if c = ')' then some (.close, cs)
  else if c = '|' then some (.branch, cs)
  else if c = '[' then (bracketed? verbose cs).map fun (node, rest) => (.part node, rest)
  else if c = '?' then some (.repetition 0 (some 1), dropLazy cs)
  else if c = '*' then some (.repetition 0 none, dropLazy cs)
  else if c = '+' then some (.repetition 1 none, dropLazy cs)
  else if c = '\x7b' then
    (bounds? verbose cs).map fun (min, max, rest) => (.repetition min max, dropLazy (skip verbose rest))
  else if c = '\\' then (escape? verbose cs).map fun (primitive, rest) => (.part primitive.toNode, rest)
  else some (.part (plainNode c), cs)

/-- The state after a token. -/
def State.take? (s : State) : Token → Option State
  | .opening .capture => some (s.openGroup none)
  | .opening (.named name) =>
    if name ∈ s.names then none else some ({ s with names := name :: s.names }.openGroup none)
  | .opening (.group change) => some (s.openGroup (some change))
  | .opening (.flags change) =>
    some ({ s with verbose := (change.get? .verbose).getD s.verbose }.push (.flags change))
  | .close => s.closeGroup?
  | .branch => some s.branch
  | .repetition min max => s.repeat? min max
  | .part node => some (s.push node)

theorem State.step_opening (s : State) (cs : List Char) :
    s.step '(' cs =
      (opening? s.verbose cs).bind fun found => (s.take? (.opening found.1)).map fun t => (t, found.2) := by
  show (opening? s.verbose cs).bind _ = _
  congr 1
  funext ⟨opening, rest⟩
  cases opening with
  | named name =>
    show (if name ∈ s.names then none else _) = Option.map _ (if name ∈ s.names then none else _)
    split_ifs <;> rfl
  | _ => rfl

theorem State.step_brace (s : State) (cs : List Char) :
    s.step '\x7b' cs = (bounds? s.verbose cs).bind fun (min, max, rest) =>
      (s.take? (.repetition min max)).map fun t => (t, dropLazy (skip s.verbose rest)) := by
  show (bounds? s.verbose cs).bind _ = _
  congr 1
  funext ⟨min, max, rest⟩
  show (s.repeat? min max).bind _ = (s.repeat? min max).map _
  cases s.repeat? min max <;> rfl

/-- A step reads a token, which depends on the text alone, and takes it. -/
theorem State.step_eq_bind (s : State) (c : Char) (cs : List Char) :
    s.step c cs = (token? s.verbose c cs).bind fun found => (s.take? found.1).map fun t => (t, found.2) := by
  -- four kinds of tokens have readers of their own; every other one is a single sign
  by_cases hopen : c = '('
  · subst hopen
    show _ = (Option.map _ (opening? s.verbose cs)).bind _
    rw [step_opening, Option.bind_map]
    rfl
  by_cases hbrace : c = '\x7b'
  · subst hbrace
    show _ = (Option.map _ (bounds? s.verbose cs)).bind _
    rw [step_brace, Option.bind_map]
    rfl
  by_cases hbracket : c = '['
  · subst hbracket
    show (bracketed? s.verbose cs).bind _ = (Option.map _ (bracketed? s.verbose cs)).bind _
    rw [Option.bind_map]
    rfl
  by_cases hescape : c = '\\'
  · subst hescape
    show (escape? s.verbose cs).bind _ = (Option.map _ (escape? s.verbose cs)).bind _
    rw [Option.bind_map]
    rfl
  unfold step token? plainNode
  simp only [hopen, hbrace, hbracket, hescape, if_false]
  split_ifs <;> rfl

section Tokens

variable {token : Token} {c : Char}

/-- The signs of repetitions, with their bounds. -/
def repetitionSigns : List (Char × Nat × Option Nat) := [('?', 0, some 1), ('*', 0, none), ('+', 1, none)]

/-- From what a token that starts with a character is read. -/
inductive Token.Read (verbose : Bool) (cs : List Char) : Char → Token → List Char → Prop where
  | opening {opening : Opening} {rest : List Char} :
    opening? verbose cs = some (opening, rest) → Read verbose cs '(' (.opening opening) rest
  | close : Read verbose cs ')' .close cs
  | branch : Read verbose cs '|' .branch cs
  | bracketed {node : Node} {rest : List Char} :
    bracketed? verbose cs = some (node, rest) → Read verbose cs '[' (.part node) rest
  | sign {c : Char} {min : Nat} {max : Option Nat} :
    (c, min, max) ∈ repetitionSigns → Read verbose cs c (.repetition min max) (dropLazy cs)
  | bounds {min : Nat} {max : Option Nat} {rest : List Char} :
    bounds? verbose cs = some (min, max, rest) →
    Read verbose cs '\x7b' (.repetition min max) (dropLazy (skip verbose rest))
  | escape {primitive : Primitive} {rest : List Char} :
    escape? verbose cs = some (primitive, rest) → Read verbose cs '\\' (.part primitive.toNode) rest
  | plain {c : Char} :
    c ∉ ['(', ')', '|', '[', '?', '*', '+', '\x7b', '\\'] → Read verbose cs c (.part (plainNode c)) cs

theorem token?_eq_some_iff : token? verbose c cs = some (token, rest) ↔ token.Read verbose cs c rest := by
  constructor
  · intro h
    unfold token? at h
    -- the nine signs that begin a token, in the order in which they are tried
    split_ifs at h with hopen hclose hbranch hbracket hquestion hstar hplus hbrace hescape
    · obtain ⟨⟨opening, after⟩, hopening, heq⟩ := Option.map_eq_some_iff.mp h
      cases heq
      exact hopen ▸ .opening hopening
    · cases h
      exact hclose ▸ .close
    · cases h
      exact hbranch ▸ .branch
    · obtain ⟨⟨node, after⟩, hnode, heq⟩ := Option.map_eq_some_iff.mp h
      cases heq
      exact hbracket ▸ .bracketed hnode
    · cases h
      exact .sign (by simp [repetitionSigns, hquestion])
    · cases h
      exact .sign (by simp [repetitionSigns, hstar])
    · cases h
      exact .sign (by simp [repetitionSigns, hplus])
    · obtain ⟨⟨min, max, after⟩, hbounds, heq⟩ := Option.map_eq_some_iff.mp h
      cases heq
      exact hbrace ▸ .bounds hbounds
    · obtain ⟨⟨primitive, after⟩, hprimitive, heq⟩ := Option.map_eq_some_iff.mp h
      cases heq
      exact hescape ▸ .escape hprimitive
    · cases h
      exact .plain (by simp [hopen, hclose, hbranch, hbracket, hquestion, hstar, hplus, hbrace, hescape])
  · rintro (hopening | _ | _ | hnode | hsign | hbounds | hescape | hplain)
    · simp [token?, hopening]
    · rfl
    · rfl
    · simp [token?, hnode]
    · simp only [repetitionSigns, List.mem_cons, Prod.mk.injEq, List.not_mem_nil, or_false] at hsign
      rcases hsign with ⟨rfl, rfl, rfl⟩ | ⟨rfl, rfl, rfl⟩ | ⟨rfl, rfl, rfl⟩ <;> rfl
    · simp [token?, hbounds]
    · simp [token?, hescape]
    · simp only [List.mem_cons, List.not_mem_nil, or_false, not_or] at hplain
      simp [token?, hplain]

theorem token?_suffix (h : token? verbose c cs = some (token, rest)) : rest <:+ cs := by
  cases token?_eq_some_iff.mp h with
  | opening hopening => exact (opening?_suffix hopening).trans skip_suffix
  | bracketed hnode => exact bracketed?_suffix hnode
  | sign _ => exact dropLazy_suffix
  | bounds hbounds => exact (dropLazy_suffix.trans skip_suffix).trans (bounds?_suffix hbounds)
  | escape hescape =>
    cases cs with
    | nil => cases hescape
    | cons d cs => exact suffix_cons_of (escape?_suffix hescape)
  | close | branch | plain => exact List.suffix_refl _

/-- A token that ends in front of the end of the frame is a token of the pattern itself. -/
theorem token?_of_append (h : token? verbose c (cs ++ closing) = some (token, rest ++ closing)) :
    token? verbose c cs = some (token, rest) ∨
      token = .part (.anchor .wordBoundary) ∧ LeavesBrace verbose rest := by
  simp only [token?_eq_some_iff] at h ⊢
  generalize hrest : rest ++ closing = r at h
  cases h with
  | opening hopening =>
    subst hrest
    exact Or.inl (.opening (opening?_of_append hopening))
  | close =>
    obtain rfl := List.append_cancel_right hrest
    exact Or.inl .close
  | branch =>
    obtain rfl := List.append_cancel_right hrest
    exact Or.inl .branch
  | bracketed hnode =>
    subst hrest
    exact Or.inl (.bracketed (bracketed?_of_append hnode))
  | sign hsign =>
    obtain rfl := dropLazy_of_append hrest.symm
    exact Or.inl (.sign hsign)
  | bounds hbounds =>
    obtain ⟨more, hmore⟩ := exists_eq_append (hrest ▸ dropLazy_suffix)
    obtain ⟨after, rfl⟩ := exists_eq_append (hmore ▸ skip_suffix)
    rw [hmore] at hrest
    obtain rfl := dropLazy_of_append hrest.symm
    obtain rfl := skip_of_append hmore
    exact Or.inl (.bounds (bounds?_of_append hbounds))
  | escape hescape =>
    -- only a word boundary at the end can be read in another way
    subst hrest
    exact (escape?_of_append hescape).imp .escape fun h => ⟨by rw [h.1]; rfl, h.2⟩
  | plain hplain =>
    obtain rfl := List.append_cancel_right hrest
    exact Or.inl (.plain hplain)

theorem token?_eq_close (h : token? verbose c cs = some (.close, rest)) : c = ')' ∧ rest = cs := by
  cases token?_eq_some_iff.mp h
  exact ⟨rfl, rfl⟩

end Tokens

end AccessDecision.Pattern
