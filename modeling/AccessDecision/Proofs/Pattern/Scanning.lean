import AccessDecision.Pattern.Parser
import Mathlib.Data.List.TakeDrop
import Mathlib.Data.List.TakeWhile
import Mathlib.Tactic.SplitIfs

/-!
# What scanners read

Every scanner takes characters off the front of a pattern and leaves the rest as it is (`…_suffix`).  A scanner
that stops in front of a tail reads the same without the tail (`…_of_append`).  The converse does not hold: a
verbose comment may run on into the tail.

The one exception is a word boundary with a brace behind it, which waits for a name or for the bounds of a
repetition (`wordBoundary?_of_append`).
-/

namespace AccessDecision.Pattern

open Text (isBlank)

variable {verbose inComment : Bool} {p : Char → Bool} {cs rest tail : List Char}

/-! ## The end of the frame -/

/-- What stands behind a pattern when it is compiled for whole texts. -/
def closing : List Char := [')', '$']

/-- A brace that nothing but characters without meaning follows. -/
def LeavesBrace (verbose : Bool) (rest : List Char) : Prop :=
  ∃ blanks, rest = '\x7b' :: blanks ∧ skip verbose (blanks ++ closing) = closing

/-! ## Suffixes -/

theorem exists_eq_append {l : List Char} (h : rest ++ tail <:+ l) : ∃ before, l = before ++ tail := by
  obtain ⟨t, rfl⟩ := h
  exact ⟨t ++ rest, (List.append_assoc t rest tail).symm⟩

theorem eq_nil_of_append_suffix (h : rest ++ tail <:+ tail) : rest = [] := by
  have hlength := h.length_le
  rw [List.length_append] at hlength
  exact List.eq_nil_of_length_eq_zero (by omega)

theorem suffix_cons_of {c : Char} (h : rest <:+ cs) : rest <:+ c :: cs := h.trans (List.suffix_cons c cs)

theorem suffix_of_cons {c : Char} (h : c :: rest <:+ cs) : rest <:+ cs := (List.suffix_cons c rest).trans h

theorem exists_cons_append {c : Char} {l : List Char} (h : c :: (rest ++ tail) <:+ l) :
    ∃ d before, l = d :: (before ++ tail) := by
  obtain ⟨t, rfl⟩ := h
  cases t with
  | nil => exact ⟨c, rest, rfl⟩
  | cons d t => exact ⟨d, t ++ c :: rest, by simp⟩

theorem length_le_of_append_suffix (h : rest ++ tail <:+ cs ++ tail) : rest.length ≤ cs.length := by
  have hlength := h.length_le
  rw [List.length_append, List.length_append] at hlength
  omega

theorem not_append_suffix_of_lt {l : List Char} (h : l.length < tail.length) : ¬ rest ++ tail <:+ l := by
  intro hsuffix
  have hlength := hsuffix.length_le
  rw [List.length_append] at hlength
  omega

/-- A row whose first character does not end the frame starts in the pattern. -/
theorem exists_of_append_closing_eq_cons {c : Char} {l : List Char} (h : cs ++ closing = c :: l) (hc : c ≠ ')') :
    ∃ inner, cs = c :: inner ∧ l = inner ++ closing := by
  cases cs with
  | nil => exact absurd (List.cons.inj h).1.symm hc
  | cons d cs =>
    obtain ⟨rfl, rfl⟩ := List.cons.inj h
    exact ⟨cs, rfl, rfl⟩

theorem not_cons_suffix {c : Char} : ¬ c :: cs <:+ cs := by
  intro h
  have hlength := h.length_le
  rw [List.length_cons] at hlength
  omega

/-! ## What does not count -/

theorem skipVerbose_suffix : skipVerbose inComment cs <:+ cs := by
  induction cs generalizing inComment with
  | nil => exact List.suffix_refl []
  | cons c cs ih =>
    unfold skipVerbose
    split_ifs
    · exact suffix_cons_of ih
    · exact suffix_cons_of ih
    · exact suffix_cons_of ih
    · exact List.suffix_refl _

theorem skip_nil (verbose : Bool) : skip verbose [] = [] := by cases verbose <;> rfl

theorem skip_suffix : skip verbose cs <:+ cs := by
  unfold skip
  split_ifs
  · exact skipVerbose_suffix
  · exact List.suffix_refl cs

theorem skipVerbose_of_append (h : skipVerbose inComment (cs ++ tail) = rest ++ tail) :
    skipVerbose inComment cs = rest := by
  induction cs generalizing inComment with
  | nil =>
    have hsuffix : rest ++ tail <:+ tail := h ▸ skipVerbose_suffix
    rw [eq_nil_of_append_suffix hsuffix]
    rfl
  | cons c cs ih =>
    rw [List.cons_append] at h
    unfold skipVerbose at h ⊢
    split_ifs at h ⊢
    · exact ih h
    · exact ih h
    · exact ih h
    · exact List.append_cancel_right h

theorem skip_of_append (h : skip verbose (cs ++ tail) = rest ++ tail) : skip verbose cs = rest := by
  unfold skip at h ⊢
  split_ifs at h ⊢
  · exact skipVerbose_of_append h
  · exact List.append_cancel_right h

theorem skipVerbose_closing (inComment : Bool) (cs : List Char) :
    skipVerbose inComment (cs ++ closing) = [] ∨
      ∃ start, skipVerbose inComment (cs ++ closing) = start ++ closing := by
  induction cs generalizing inComment with
  | nil =>
    cases inComment with
    | true => exact Or.inl rfl
    | false => exact Or.inr ⟨[], rfl⟩
  | cons c cs ih =>
    rw [List.cons_append]
    unfold skipVerbose
    split_ifs
    · exact ih _
    · exact ih _
    · exact ih _
    · exact Or.inr ⟨c :: cs, rfl⟩

/-- Either a comment runs over the end of the pattern, or the end is kept. -/
theorem skip_closing (verbose : Bool) (cs : List Char) :
    skip verbose (cs ++ closing) = [] ∨ ∃ start, skip verbose (cs ++ closing) = start ++ closing := by
  unfold skip
  split_ifs
  · exact skipVerbose_closing false cs
  · exact Or.inr ⟨cs, rfl⟩

theorem dropWhile_of_append (h : (cs ++ tail).dropWhile p = rest ++ tail) : cs.dropWhile p = rest := by
  induction cs with
  | nil =>
    have hsuffix : rest ++ tail <:+ tail := h ▸ List.dropWhile_suffix p
    rw [eq_nil_of_append_suffix hsuffix]
    rfl
  | cons c cs ih =>
    rw [List.cons_append, List.dropWhile_cons] at h
    rw [List.dropWhile_cons]
    split_ifs at h ⊢
    · exact ih h
    · exact List.append_cancel_right h

/-! ## Runs of characters -/

theorem span_of_dropWhile {c : Char} (h : cs.dropWhile p = c :: rest) (tail : List Char) :
    (cs ++ tail).span p = (cs.takeWhile p, c :: (rest ++ tail)) := by
  have hcs : cs.takeWhile p ++ c :: rest = cs := h ▸ List.takeWhile_append_dropWhile
  have hstop : p c = false := by
    have hne : cs.dropWhile p ≠ [] := by simp [h]
    simpa [h] using List.head_dropWhile_not p hne
  have hall : ∀ a ∈ cs.takeWhile p, p a = true := fun a ha => List.mem_takeWhile_imp ha
  rw [List.span_eq_takeWhile_dropWhile]
  generalize cs.takeWhile p = start at hcs hall ⊢
  subst hcs
  rw [List.append_assoc, List.takeWhile_append_of_pos hall, List.dropWhile_append_of_pos hall]
  simp [hstop]

theorem takeRun_suffix : (takeRun verbose inComment p cs).2 <:+ cs := by
  induction cs generalizing inComment with
  | nil => exact List.suffix_refl []
  | cons c cs ih =>
    unfold takeRun
    split_ifs
    · exact suffix_cons_of ih
    · exact suffix_cons_of ih
    · exact suffix_cons_of ih
    · exact suffix_cons_of ih
    · exact List.suffix_refl _

/-- A run that leaves everything is empty. -/
theorem takeRun_eq_nil (h : cs <:+ (takeRun verbose inComment p cs).2) :
    (takeRun verbose inComment p cs).1 = [] := by
  cases cs with
  | nil => rfl
  | cons c cs =>
    unfold takeRun at h ⊢
    split_ifs at h ⊢
    · exact absurd (h.trans takeRun_suffix) not_cons_suffix
    · exact absurd (h.trans takeRun_suffix) not_cons_suffix
    · exact absurd (h.trans takeRun_suffix) not_cons_suffix
    · exact absurd (h.trans takeRun_suffix) not_cons_suffix
    · rfl

theorem takeRun_of_append {run : List Char}
    (h : takeRun verbose inComment p (cs ++ tail) = (run, rest ++ tail)) :
    takeRun verbose inComment p cs = (run, rest) := by
  induction cs generalizing inComment run with
  | nil =>
    have hrest : (takeRun verbose inComment p tail).2 = rest ++ tail := congrArg Prod.snd h
    -- a run that starts in the tail ends in the tail, so nothing of the tail is taken
    have hnil := eq_nil_of_append_suffix (hrest ▸ takeRun_suffix (p := p))
    subst hnil
    have hrun : (takeRun verbose inComment p tail).1 = run := congrArg Prod.fst h
    rw [← hrun, takeRun_eq_nil (hrest ▸ List.suffix_refl tail)]
    rfl
  | cons c cs ih =>
    rw [List.cons_append] at h
    unfold takeRun at h ⊢
    split_ifs at h ⊢
    · exact ih h
    · exact ih h
    · exact ih h
    · obtain ⟨rfl, hrest⟩ := Prod.mk.inj h
      rw [ih (Prod.ext rfl hrest)]
    · obtain ⟨rfl, hrest⟩ := Prod.mk.inj h
      exact Prod.ext rfl (List.append_cancel_right hrest)

/-! ## Numbers -/

theorem hexDigits?_suffix {count : Nat} {digits : List Char}
    (h : hexDigits? verbose inComment count cs = some (digits, rest)) :
    rest <:+ cs ∧ rest.length + count ≤ cs.length := by
  induction cs generalizing inComment count digits with
  | nil =>
    cases count with
    | zero =>
      cases h
      exact ⟨List.suffix_refl _, Nat.le_refl _⟩
    | succ n => cases h
  | cons c cs ih =>
    cases count with
    | zero =>
      cases h
      exact ⟨List.suffix_refl _, Nat.le_refl _⟩
    | succ n =>
      unfold hexDigits? at h
      split_ifs at h
      · exact ⟨suffix_cons_of (ih h).1, Nat.le_succ_of_le (ih h).2⟩
      · exact ⟨suffix_cons_of (ih h).1, Nat.le_succ_of_le (ih h).2⟩
      · exact ⟨suffix_cons_of (ih h).1, Nat.le_succ_of_le (ih h).2⟩
      · obtain ⟨⟨digits', rest'⟩, hdigits, heq⟩ := Option.map_eq_some_iff.mp h
        obtain ⟨-, rfl⟩ := Prod.mk.inj heq
        exact ⟨suffix_cons_of (ih hdigits).1, Nat.succ_le_succ (ih hdigits).2⟩

theorem hexDigits?_of_append {count : Nat} {digits : List Char}
    (h : hexDigits? verbose inComment count (cs ++ tail) = some (digits, rest ++ tail)) :
    hexDigits? verbose inComment count cs = some (digits, rest) := by
  induction cs generalizing inComment count digits with
  | nil =>
    obtain ⟨hsuffix, hlength⟩ := hexDigits?_suffix h
    -- as in a run, no digit can come from the tail
    have hnil := eq_nil_of_append_suffix hsuffix
    subst hnil
    cases count with
    | zero =>
      rw [List.nil_append, hexDigits?] at h
      obtain ⟨rfl, -⟩ := Prod.mk.inj (Option.some.inj h)
      rfl
    | succ n =>
      rw [List.nil_append] at hlength
      omega
  | cons c cs ih =>
    cases count with
    | zero =>
      obtain ⟨rfl, hrest⟩ := Prod.mk.inj (Option.some.inj h)
      rw [← List.append_cancel_right hrest]
      rfl
    | succ n =>
      rw [List.cons_append] at h
      unfold hexDigits? at h ⊢
      split_ifs at h ⊢
      · exact ih h
      · exact ih h
      · exact ih h
      · obtain ⟨⟨digits', rest'⟩, hdigits, heq⟩ := Option.map_eq_some_iff.mp h
        obtain ⟨rfl, rfl⟩ := Prod.mk.inj heq
        rw [ih hdigits]
        rfl

theorem decimal?_suffix {n : Nat} (h : decimal? verbose cs = some (n, rest)) : rest <:+ cs := by
  simp only [decimal?] at h
  split_ifs at h
  obtain ⟨-, rfl⟩ := Prod.mk.inj (Option.some.inj h)
  exact ((List.dropWhile_suffix _).trans takeRun_suffix).trans (List.dropWhile_suffix _)

theorem decimal?_of_append {n : Nat} (h : decimal? verbose (cs ++ tail) = some (n, rest ++ tail)) :
    decimal? verbose cs = some (n, rest) := by
  simp only [decimal?] at h
  split_ifs at h with hempty
  obtain ⟨hn, hrest⟩ := Prod.mk.inj (Option.some.inj h)
  obtain ⟨digits, hdigits⟩ := exists_eq_append (hrest ▸ List.dropWhile_suffix _)
  obtain ⟨start, hstart⟩ := exists_eq_append (hdigits ▸ takeRun_suffix)
  rw [hdigits] at hrest
  rw [hstart] at hn hempty hdigits
  have hrun := takeRun_of_append (Prod.ext rfl hdigits)
  simp only [decimal?]
  rw [dropWhile_of_append hstart, hrun, if_neg hempty, dropWhile_of_append hrest, ← hn]

/-! ## Escapes -/

section Escapes

variable {primitive : Primitive}

/-- What a hexadecimal escape reads: digits between braces, or as many as its letter counts. -/
inductive HexRead (verbose : Bool) (count : Nat) (cs : List Char) : Primitive → List Char → Prop where
  | braced {inner digits rest : List Char} {c : Char} :
    skip verbose cs = '\x7b' :: inner → takeRun verbose false isHexDigit inner = (digits, '\x7d' :: rest) →
    digits ≠ [] → charOf? (digitsValue 16 digits) = some c → HexRead verbose count cs (.plain c) rest
  | counted {digits rest : List Char} {c : Char} :
    (∀ inner, skip verbose cs ≠ '\x7b' :: inner) →
    hexDigits? verbose false count (skip verbose cs) = some (digits, rest) →
    charOf? (digitsValue 16 digits) = some c → HexRead verbose count cs (.literal ⟨c, count == 2⟩) rest

theorem hexEscape?_eq_some_iff {count : Nat} :
    hexEscape? verbose count cs = some (primitive, rest) ↔ HexRead verbose count cs primitive rest := by
  constructor
  · intro h
    unfold hexEscape? at h
    split at h
    · rename_i hskip
      simp only at h
      split at h
      · rename_i hrun
        split_ifs at h with hempty
        obtain ⟨c, hc, h⟩ := Option.bind_eq_some_iff.mp h
        cases h
        exact .braced hskip (Prod.ext rfl hrun) (by simpa using hempty) hc
      · cases h
    · rename_i hbrace
      obtain ⟨⟨digits, after⟩, hdigits, h⟩ := Option.bind_eq_some_iff.mp h
      obtain ⟨c, hc, h⟩ := Option.bind_eq_some_iff.mp h
      cases h
      exact .counted hbrace hdigits hc
  · rintro (⟨hskip, hrun, hne, hc⟩ | ⟨hbrace, hdigits, hc⟩)
    · simp [hexEscape?, hskip, hrun, hne, hc]
    · unfold hexEscape?
      split
      · rename_i hskip
        exact absurd hskip (hbrace _)
      · simp [hdigits, hc]

theorem hexEscape?_suffix {count : Nat} (h : hexEscape? verbose count cs = some (primitive, rest)) :
    rest <:+ cs := by
  cases hexEscape?_eq_some_iff.mp h with
  | braced hskip hrun _ _ =>
    exact (suffix_of_cons (hrun ▸ takeRun_suffix)).trans (suffix_of_cons (hskip ▸ skip_suffix))
  | counted _ hdigits _ => exact (hexDigits?_suffix hdigits).1.trans skip_suffix

theorem hexEscape?_of_append {count : Nat}
    (h : hexEscape? verbose count (cs ++ tail) = some (primitive, rest ++ tail)) :
    hexEscape? verbose count cs = some (primitive, rest) := by
  rw [hexEscape?_eq_some_iff] at h ⊢
  generalize hrest : rest ++ tail = r at h
  cases h with
  | braced hskip hrun hne hc =>
    subst hrest
    obtain ⟨inner, rfl⟩ := exists_eq_append (suffix_of_cons (hrun ▸ takeRun_suffix))
    exact .braced (skip_of_append hskip) (takeRun_of_append hrun) hne hc
  | counted hbrace hdigits hc =>
    subst hrest
    obtain ⟨start, hstart⟩ := exists_eq_append (hexDigits?_suffix hdigits).1
    rw [hstart] at hdigits hbrace
    have hskip : skip verbose cs = start := skip_of_append hstart
    refine .counted (fun inner heq => hbrace (inner ++ tail) ?_) ?_ hc
    · rw [← hskip, heq, List.cons_append]
    · rw [hskip]
      exact hexDigits?_of_append hdigits

/-- What the escape of a property reads: a name between braces, or a name of one letter. -/
inductive PropertyRead (verbose negated : Bool) (cs : List Char) : Primitive → List Char → Prop where
  | braced {inner name rest : List Char} {c : Char} :
    skip verbose cs = '\x7b' :: inner → takeRun verbose false (· != '\x7d') inner = (name, c :: rest) →
    PropertyRead verbose negated cs (.property negated (propertyOf name)) rest
  | letter {rest : List Char} {c : Char} :
    skip verbose cs = c :: rest → c ≠ '\x7b' → c ≠ '\\' →
    PropertyRead verbose negated cs (.property negated (.named (String.singleton c))) rest

theorem propertyEscape?_eq_some_iff {negated : Bool} :
    propertyEscape? verbose negated cs = some (primitive, rest) ↔
      PropertyRead verbose negated cs primitive rest := by
  constructor
  · intro h
    unfold propertyEscape? at h
    split at h
    · cases h
    · rename_i hskip
      simp only at h
      split at h
      · cases h
      · rename_i hrun
        cases h
        exact .braced hskip (Prod.ext rfl hrun)
    · rename_i hbrace hskip
      split_ifs at h with hc
      cases h
      exact .letter hskip hbrace hc
  · rintro (⟨hskip, hrun⟩ | ⟨hskip, hbrace, hc⟩)
    · simp [propertyEscape?, hskip, hrun]
    · simp [propertyEscape?, hskip, hc]

theorem propertyEscape?_suffix {negated : Bool} (h : propertyEscape? verbose negated cs = some (primitive, rest)) :
    rest <:+ cs := by
  cases propertyEscape?_eq_some_iff.mp h with
  | braced hskip hrun =>
    exact (suffix_of_cons (hrun ▸ takeRun_suffix)).trans (suffix_of_cons (hskip ▸ skip_suffix))
  | letter hskip _ _ => exact suffix_of_cons (hskip ▸ skip_suffix)

theorem propertyEscape?_of_append {negated : Bool}
    (h : propertyEscape? verbose negated (cs ++ tail) = some (primitive, rest ++ tail)) :
    propertyEscape? verbose negated cs = some (primitive, rest) := by
  rw [propertyEscape?_eq_some_iff] at h ⊢
  generalize hrest : rest ++ tail = r at h
  cases h with
  | braced hskip hrun =>
    subst hrest
    obtain ⟨inner, rfl⟩ := exists_eq_append (suffix_of_cons (hrun ▸ takeRun_suffix))
    exact .braced (skip_of_append hskip) (takeRun_of_append hrun)
  | letter hskip hbrace hc =>
    subst hrest
    exact .letter (skip_of_append hskip) hbrace hc

/-- Whether a character may stand in the name of a word anchor. -/
def isAnchorNameChar (c : Char) : Bool := c.isAlpha || c == '-'

/-- From what a word boundary is read. -/
inductive WordBoundaryRead (verbose : Bool) : List Char → Primitive → List Char → Prop where
  | plain {cs : List Char} : (∀ more, cs ≠ '\x7b' :: more) → WordBoundaryRead verbose cs (.anchor .wordBoundary) cs
  /-- The brace starts a repetition. -/
  | repeated {cs more : List Char} {c : Char} :
    skip verbose cs = c :: more → isAnchorNameChar c = false →
    WordBoundaryRead verbose ('\x7b' :: cs) (.anchor .wordBoundary) ('\x7b' :: cs)
  | named {cs more name rest : List Char} {c : Char} {kind : Anchor} :
    skip verbose cs = c :: more → isAnchorNameChar c = true →
    takeRun verbose false isAnchorNameChar (c :: more) = (name, '\x7d' :: rest) →
    wordAnchors.lookup (String.ofList name) = some kind →
    WordBoundaryRead verbose ('\x7b' :: cs) (.anchor kind) rest

theorem wordBoundary?_eq_some_iff :
    wordBoundary? verbose cs = some (primitive, rest) ↔ WordBoundaryRead verbose cs primitive rest := by
  constructor
  · intro h
    unfold wordBoundary? at h
    split at h
    · split at h
      · cases h
      · -- behind the brace stands a name, or the brace begins a repetition
        rename_i c more hskip
        split_ifs at h with hname
        · simp only at h
          split at h
          · rename_i after hrun
            obtain ⟨kind, hkind, heq⟩ := Option.map_eq_some_iff.mp h
            cases heq
            exact .named hskip hname (Prod.ext rfl hrun) hkind
          · cases h
        · cases h
          exact .repeated hskip (eq_false_of_ne_true hname)
    · rename_i hbrace
      cases h
      exact .plain hbrace
  · rintro (hbrace | ⟨hskip, hname⟩ | ⟨hskip, hname, hrun, hkind⟩)
    · unfold wordBoundary?
      split
      · exact absurd rfl (hbrace _)
      · rfl
    · unfold isAnchorNameChar at hname
      simp [wordBoundary?, hskip, hname]
    · unfold isAnchorNameChar at hname hrun
      simp [wordBoundary?, hskip, hname, hrun, hkind]

theorem wordBoundary?_suffix (h : wordBoundary? verbose cs = some (primitive, rest)) : rest <:+ cs := by
  cases wordBoundary?_eq_some_iff.mp h with
  | plain _ => exact List.suffix_refl cs
  | repeated _ _ => exact List.suffix_refl _
  | named hskip _ hrun _ =>
    have hname := suffix_of_cons (hrun ▸ takeRun_suffix)
    exact suffix_cons_of (hname.trans (hskip ▸ skip_suffix))

/-- A brace that starts a repetition does so without the end, unless nothing stands behind it. -/
theorem WordBoundaryRead.repeated_of_append {more : List Char} {c : Char}
    (hskip : skip verbose (cs ++ closing) = c :: more) (hname : isAnchorNameChar c = false) :
    WordBoundaryRead verbose ('\x7b' :: cs) (.anchor .wordBoundary) ('\x7b' :: cs) ∨
      skip verbose (cs ++ closing) = closing := by
  rcases skip_closing verbose cs with hnil | ⟨start, hstart⟩
  · rw [hnil] at hskip
    cases hskip
  cases start with
  | nil => exact Or.inr hstart
  | cons d start =>
    rw [hstart] at hskip
    obtain ⟨rfl, -⟩ := List.cons.inj hskip
    exact Or.inl (.repeated (skip_of_append hstart) hname)

theorem WordBoundaryRead.named_of_append {more name : List Char} {c : Char} {kind : Anchor}
    (hskip : skip verbose (cs ++ tail) = c :: more) (hname : isAnchorNameChar c = true)
    (hrun : takeRun verbose false isAnchorNameChar (c :: more) = (name, '\x7d' :: rest ++ tail))
    (hkind : wordAnchors.lookup (String.ofList name) = some kind) :
    WordBoundaryRead verbose ('\x7b' :: cs) (.anchor kind) rest := by
  obtain ⟨start, hstart⟩ := exists_eq_append (hrun ▸ takeRun_suffix)
  rw [hstart] at hskip hrun
  have hskip := skip_of_append hskip
  have hrun := takeRun_of_append hrun
  cases start with
  | nil => cases hrun
  | cons d start =>
    obtain ⟨rfl, -⟩ := List.cons.inj hstart
    exact .named hskip hname hrun hkind

/-- A word boundary may leave a brace in front of the end, which it takes for the start of a repetition. -/
theorem wordBoundary?_of_append
    (h : wordBoundary? verbose (cs ++ closing) = some (primitive, rest ++ closing)) :
    wordBoundary? verbose cs = some (primitive, rest) ∨
      primitive = .anchor .wordBoundary ∧ LeavesBrace verbose rest := by
  rw [wordBoundary?_eq_some_iff] at h ⊢
  generalize hcs : cs ++ closing = l, hrest : rest ++ closing = r at h
  cases h with
  | plain hbrace =>
    obtain rfl := List.append_cancel_right (hrest.trans hcs.symm)
    exact Or.inl (.plain fun more hmore => hbrace (more ++ closing) (by rw [← hcs, hmore]; rfl))
  | repeated hskip hname =>
    obtain ⟨inner, rfl, rfl⟩ := exists_of_append_closing_eq_cons hcs (by decide)
    obtain rfl := List.append_cancel_right (hrest.trans hcs.symm)
    exact (WordBoundaryRead.repeated_of_append hskip hname).imp_right fun h => ⟨rfl, inner, rfl, h⟩
  | named hskip hname hrun hkind =>
    obtain ⟨inner, rfl, rfl⟩ := exists_of_append_closing_eq_cons hcs (by decide)
    rw [← hrest] at hrun
    exact Or.inl (.named_of_append hskip hname hrun hkind)

theorem escape?_suffix {c : Char} (h : escape? verbose (c :: cs) = some (primitive, rest)) : rest <:+ cs := by
  simp only [escape?] at h
  split_ifs at h
  · exact hexEscape?_suffix h
  · exact hexEscape?_suffix h
  · exact hexEscape?_suffix h
  · exact propertyEscape?_suffix h
  · exact propertyEscape?_suffix h
  · exact wordBoundary?_suffix h
  · cases h
    exact List.suffix_refl cs
  · obtain ⟨found, -, heq⟩ := Option.map_eq_some_iff.mp h
    cases heq
    exact List.suffix_refl cs

theorem escape?_of_append (h : escape? verbose (cs ++ closing) = some (primitive, rest ++ closing)) :
    escape? verbose cs = some (primitive, rest) ∨
      primitive = .anchor .wordBoundary ∧ LeavesBrace verbose rest := by
  cases cs with
  | nil => exact absurd (escape?_suffix h) (not_append_suffix_of_lt (by decide))
  | cons c cs =>
    simp only [List.cons_append, escape?] at h ⊢
    split_ifs at h ⊢
    · exact Or.inl (hexEscape?_of_append h)
    · exact Or.inl (hexEscape?_of_append h)
    · exact Or.inl (hexEscape?_of_append h)
    · exact Or.inl (propertyEscape?_of_append h)
    · exact Or.inl (propertyEscape?_of_append h)
    · exact wordBoundary?_of_append h
    · obtain ⟨rfl, hrest⟩ := Prod.mk.inj (Option.some.inj h)
      rw [List.append_cancel_right hrest]
      exact Or.inl rfl
    · obtain ⟨found, hfound, heq⟩ := Option.map_eq_some_iff.mp h
      obtain ⟨rfl, hrest⟩ := Prod.mk.inj heq
      rw [hfound, List.append_cancel_right hrest]
      exact Or.inl rfl

end Escapes

end AccessDecision.Pattern
