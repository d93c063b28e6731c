import AccessDecision.Proofs.Pattern.Scanning

/-!
# What classes between brackets read

A class looks beyond the next character: for a name between colons, for the end of a range, for what follows its
opening.  All that it looks at stands in front of the bracket that ends it (`classLoop?_bracket`), so it reads
the same with and without the end of the frame (`bracketed?_of_append`).
-/

namespace AccessDecision.Pattern

open Text (isBlank)

variable {verbose : Bool} {cs rest tail : List Char} {item : ClassSet}

/-! ## Classes between colons -/

section NamedClasses

/-- The name of a class up to its second colon, and what follows the bracket behind it. -/
def nameUpToColon? (negated : Bool) (cs : List Char) : Option (ClassSet × List Char) :=
  match cs.span (· != ':') with
  | (name, ':' :: ']' :: after) =>
    (classNames.lookup (String.ofList name)).map fun cls => (.namedClass negated cls, after)
  | _ => none

theorem namedClass?_colon {c : Char} (hc : c ≠ '^') (cs : List Char) :
    namedClass? (':' :: c :: cs) = nameUpToColon? false (c :: cs) := by
  simp only [namedClass?, List.cons.injEq, hc, false_and, imp_self, implies_true]
  rfl

theorem nameUpToColon?_suffix {negated : Bool} (h : nameUpToColon? negated cs = some (item, rest)) :
    ']' :: rest <:+ cs := by
  unfold nameUpToColon? at h
  rw [List.span_eq_takeWhile_dropWhile] at h
  split at h
  · rename_i name after hspan
    obtain ⟨cls, -, heq⟩ := Option.map_eq_some_iff.mp h
    obtain ⟨-, rfl⟩ := Prod.mk.inj heq
    have hdrop : cs.dropWhile (· != ':') = ':' :: ']' :: after := congrArg Prod.snd hspan
    exact suffix_of_cons (hdrop ▸ List.dropWhile_suffix _)
  · cases h

theorem nameUpToColon?_append {negated : Bool} (h : nameUpToColon? negated cs = some (item, rest))
    (tail : List Char) :
    nameUpToColon? negated (cs ++ tail) = some (item, rest ++ tail) := by
  unfold nameUpToColon? at h ⊢
  rw [List.span_eq_takeWhile_dropWhile] at h
  split at h
  · rename_i name after hspan
    obtain ⟨cls, hcls, heq⟩ := Option.map_eq_some_iff.mp h
    obtain ⟨rfl, rfl⟩ := Prod.mk.inj heq
    obtain ⟨rfl, hdrop⟩ := Prod.mk.inj hspan
    rw [span_of_dropWhile hdrop tail]
    simp [hcls]
  · cases h

theorem nameUpToColon?_of_append {negated : Bool}
    (h : nameUpToColon? negated (cs ++ tail) = some (item, rest ++ tail)) :
    nameUpToColon? negated cs = some (item, rest) := by
  unfold nameUpToColon? at h ⊢
  split at h
  · rename_i name after hspan
    obtain ⟨cls, hcls, heq⟩ := Option.map_eq_some_iff.mp h
    obtain ⟨rfl, rfl⟩ := Prod.mk.inj heq
    have hdrop : cs.dropWhile (· != ':') = ':' :: ']' :: rest := by
      rw [List.span_eq_takeWhile_dropWhile] at hspan
      exact dropWhile_of_append (congrArg Prod.snd hspan)
    rw [span_of_dropWhile hdrop tail] at hspan
    obtain ⟨rfl, -⟩ := Prod.mk.inj hspan
    rw [List.span_eq_takeWhile_dropWhile, hdrop]
    simp [hcls]
  · cases h

theorem exists_colon_of_namedClass? (h : namedClass? cs = some (item, rest)) :
    ∃ c inner, cs = ':' :: c :: inner ∧
      nameUpToColon? (c == '^') (if c = '^' then inner else c :: inner) = some (item, rest) := by
  unfold namedClass? at h
  split at h
  · rename_i inner
    cases inner with
    | nil => cases h
    | cons c inner =>
      refine ⟨c, inner, rfl, ?_⟩
      by_cases hc : c = '^'
      · subst hc
        exact h
      · rw [beq_false_of_ne hc, if_neg hc, ← namedClass?_colon hc]
        exact h
  · cases h

theorem namedClass?_suffix (h : namedClass? cs = some (item, rest)) : ']' :: rest <:+ cs := by
  obtain ⟨c, inner, rfl, hname⟩ := exists_colon_of_namedClass? h
  split_ifs at hname
  · exact suffix_cons_of (suffix_cons_of (nameUpToColon?_suffix hname))
  · exact suffix_cons_of (nameUpToColon?_suffix hname)

theorem namedClass?_append (h : namedClass? cs = some (item, rest)) (tail : List Char) :
    namedClass? (cs ++ tail) = some (item, rest ++ tail) := by
  obtain ⟨c, inner, rfl, hname⟩ := exists_colon_of_namedClass? h
  rw [List.cons_append, List.cons_append]
  by_cases hc : c = '^'
  · subst hc
    exact nameUpToColon?_append hname tail
  · rw [beq_false_of_ne hc, if_neg hc] at hname
    rw [namedClass?_colon hc]
    exact nameUpToColon?_append hname tail

theorem namedClass?_of_append (h : namedClass? (cs ++ tail) = some (item, rest ++ tail)) :
    namedClass? cs = some (item, rest) := by
  have hsuffix : ']' :: rest ++ tail <:+ cs ++ tail := namedClass?_suffix h
  have hlength := length_le_of_append_suffix hsuffix
  obtain ⟨c, inner, hinner, hname⟩ := exists_colon_of_namedClass? h
  -- the name ends in front of a bracket of `cs`, so its colon stands in `cs`, too
  match cs with
  | [] => cases hlength
  | [_] =>
    obtain rfl : rest = [] := by simpa using hlength
    obtain ⟨rfl, -⟩ := List.cons.inj (hsuffix.eq_of_length rfl)
    cases (List.cons.inj hinner).1
  | _ :: d :: cs =>
    obtain ⟨rfl, htail⟩ := List.cons.inj hinner
    obtain ⟨rfl, rfl⟩ := List.cons.inj htail
    by_cases hd : d = '^'
    · subst hd
      exact nameUpToColon?_of_append hname
    · rw [beq_false_of_ne hd, if_neg hd] at hname
      rw [namedClass?_colon hd]
      exact nameUpToColon?_of_append hname

theorem namedClass?_eq_none_of_append (h : namedClass? (cs ++ tail) = none) : namedClass? cs = none := by
  rw [Option.eq_none_iff_forall_ne_some]
  intro found hfound
  rw [namedClass?_append hfound] at h
  cases h

end NamedClasses

/-! ## The start of a class -/

section Start

variable {negated negated' : Bool} {items : List ClassSet}

theorem leadingHyphens_suffix : (leadingHyphens verbose cs).2 <:+ cs := takeRun_suffix

theorem leadingHyphens_of_append (h : leadingHyphens verbose (cs ++ tail) = (items, rest ++ tail)) :
    leadingHyphens verbose cs = (items, rest) := by
  obtain ⟨hitems, hrest⟩ := Prod.mk.inj h
  unfold leadingHyphens
  rw [takeRun_of_append (Prod.ext rfl hrest), ← hitems]

/-- The items that can stand only at the start of a class, after its sign. -/
def openItems? (verbose negated : Bool) (cs : List Char) : Option (Bool × List ClassSet × List Char) :=
  let (hyphens, rest) := leadingHyphens verbose cs
  match rest with
  | [] => none
  | ']' :: more =>
    if hyphens.isEmpty then
      let more := skip verbose more
      if more.isEmpty then none else some (negated, [.literal ⟨']', false⟩], more)
    else some (negated, hyphens.reverse, ']' :: more)
  | more => some (negated, hyphens.reverse, more)

/-- What a class may open with: a bracket that stands for itself, or hyphens, behind which a bracket closes it. -/
inductive ItemsOpened (verbose : Bool) (cs : List Char) : List ClassSet → List Char → Prop where
  | bracket {more rest : List Char} :
    leadingHyphens verbose cs = ([], ']' :: more) → skip verbose more = rest → rest ≠ [] →
    ItemsOpened verbose cs [.literal ⟨']', false⟩] rest
  | hyphens {hyphens : List ClassSet} {rest : List Char} :
    leadingHyphens verbose cs = (hyphens, rest) → rest ≠ [] → (∀ more, rest = ']' :: more → hyphens ≠ []) →
    ItemsOpened verbose cs hyphens.reverse rest

theorem openItems?_eq_some_iff :
    openItems? verbose negated cs = some (negated', items, rest) ↔
      negated' = negated ∧ ItemsOpened verbose cs items rest := by
  unfold openItems?
  constructor
  · intro h
    simp only at h
    split at h
    · cases h
    · rename_i more hrest
      split_ifs at h with hhyphens hmore
      · cases h
        exact ⟨rfl, .bracket (Prod.ext (List.isEmpty_iff.mp hhyphens) hrest) rfl (by simpa using hmore)⟩
      · cases h
        exact ⟨rfl, .hyphens (Prod.ext rfl hrest) nofun fun _ _ => by simpa using hhyphens⟩
    · rename_i hnil hbracket
      cases h
      exact ⟨rfl, .hyphens rfl hnil fun more hmore => (hbracket more hmore).elim⟩
  · rintro ⟨rfl, ⟨hrun, rfl, hne⟩ | ⟨hrun, hne, hbracket⟩⟩
    · simp [hrun, hne]
    · obtain ⟨c, rest, rfl⟩ := List.exists_cons_of_ne_nil hne
      by_cases hc : c = ']'
      · subst hc
        simp [hrun, hbracket rest rfl]
      · simp [hrun, hc]

theorem openClass?_caret {more : List Char} (h : skip verbose cs = '^' :: more) :
    openClass? verbose cs = openItems? verbose true (skip verbose more) := by
  unfold openClass? openItems?
  simp only [h]
  cases hmore : skip verbose more with
  | nil => rfl
  | cons c more => rfl

theorem openClass?_plain (h : (skip verbose cs).head? ≠ some '^') :
    openClass? verbose cs = openItems? verbose false (skip verbose cs) := by
  unfold openClass?
  cases hcs : skip verbose cs with
  | nil => rfl
  | cons c more =>
    have hc : c ≠ '^' := by
      rw [hcs] at h
      simpa using h
    simp only [List.cons.injEq, hc, false_and, imp_self, implies_true]
    rfl

theorem openItems?_suffix (h : openItems? verbose negated cs = some (negated', items, rest)) : rest <:+ cs := by
  cases (openItems?_eq_some_iff.mp h).2 with
  | bracket hrun hskip _ => exact (hskip ▸ skip_suffix).trans (suffix_of_cons (hrun ▸ leadingHyphens_suffix))
  | hyphens hrun _ _ =>
    have hsuffix : (leadingHyphens verbose cs).2 <:+ cs := leadingHyphens_suffix
    rwa [hrun] at hsuffix

theorem ItemsOpened.of_append (hne : rest ≠ []) (h : ItemsOpened verbose (cs ++ tail) items (rest ++ tail)) :
    ItemsOpened verbose cs items rest := by
  generalize hrest : rest ++ tail = r at h
  cases h with
  | bracket hrun hskip _ =>
    subst hrest
    obtain ⟨more, rfl⟩ := exists_eq_append (hskip ▸ skip_suffix)
    exact .bracket (leadingHyphens_of_append hrun) (skip_of_append hskip) hne
  | hyphens hrun _ hbracket =>
    subst hrest
    exact .hyphens (leadingHyphens_of_append hrun) hne fun more hmore =>
      hbracket (more ++ tail) (by rw [hmore]; rfl)

theorem openItems?_of_append (hne : rest ≠ [])
    (h : openItems? verbose negated (cs ++ tail) = some (negated', items, rest ++ tail)) :
    openItems? verbose negated cs = some (negated', items, rest) := by
  rw [openItems?_eq_some_iff] at h ⊢
  exact ⟨h.1, h.2.of_append hne⟩

theorem openClass?_suffix (h : openClass? verbose cs = some (negated, items, rest)) : rest <:+ cs := by
  by_cases hcaret : (skip verbose cs).head? = some '^'
  · obtain ⟨more, hmore⟩ := List.head?_eq_some_iff.mp hcaret
    rw [openClass?_caret hmore] at h
    exact ((openItems?_suffix h).trans skip_suffix).trans (suffix_of_cons (hmore ▸ skip_suffix))
  · rw [openClass?_plain hcaret] at h
    exact (openItems?_suffix h).trans skip_suffix

theorem openClass?_of_append (hne : rest ≠ [])
    (h : openClass? verbose (cs ++ tail) = some (negated, items, rest ++ tail)) :
    openClass? verbose cs = some (negated, items, rest) := by
  by_cases hcaret : (skip verbose (cs ++ tail)).head? = some '^'
  · -- a caret inverts the class, and what counts for the rest is what follows it
    obtain ⟨more, hmore⟩ := List.head?_eq_some_iff.mp hcaret
    rw [openClass?_caret hmore] at h
    obtain ⟨inner, hinner⟩ := exists_eq_append (openItems?_suffix h)
    obtain ⟨more, rfl⟩ := exists_eq_append (hinner ▸ skip_suffix)
    have hmore : skip verbose cs = '^' :: more := skip_of_append hmore
    rw [hinner] at h
    rw [openClass?_caret hmore, skip_of_append hinner]
    exact openItems?_of_append hne h
  · rw [openClass?_plain hcaret] at h
    obtain ⟨start, hstart⟩ := exists_eq_append (openItems?_suffix h)
    rw [hstart] at h hcaret
    have hskip := skip_of_append hstart
    cases start with
    | nil => exact absurd (eq_nil_of_append_suffix (openItems?_suffix h)) hne
    | cons c start =>
      rw [openClass?_plain (by rw [hskip]; exact hcaret), hskip]
      exact openItems?_of_append hne h

end Start

/-! ## Items of a class -/

section Items

variable {item : ClassSet} {primitive : Primitive}

theorem dropWhile_isBlank_closing (cs : List Char) :
    (cs ++ closing).dropWhile isBlank = cs.dropWhile isBlank ++ closing := by
  induction cs with
  | nil => decide
  | cons c cs ih =>
    rw [List.cons_append, List.dropWhile_cons, List.dropWhile_cons]
    split_ifs
    · exact ih
    · rfl

/-- Looking for the end of a range, a class sees a bracket or a hyphen only in the pattern itself. -/
theorem peekAfterDash_append {c : Char} (hc : c = ']' ∨ c = '-') :
    peekAfterDash verbose (cs ++ closing) = some c ↔ peekAfterDash verbose cs = some c := by
  have hclosing : ')' ≠ c := by rcases hc with rfl | rfl <;> decide
  have hsign : '#' ≠ c := by rcases hc with rfl | rfl <;> decide
  have hblank : isBlank c = false := by rcases hc with rfl | rfl <;> decide
  unfold peekAfterDash
  cases verbose with
  | false =>
    cases cs with
    | nil => simpa [closing] using hclosing
    | cons d cs => rfl
  | true =>
    -- the first character is what a class falls back to, and then it is blank or the sign of a comment
    have hhead : cs.head? = some c → cs.dropWhile isBlank = cs := by
      intro hhead
      obtain ⟨ds, rfl⟩ := List.head?_eq_some_iff.mp hhead
      rw [List.dropWhile_cons, hblank, if_neg Bool.false_ne_true]
    simp only [if_true, dropWhile_isBlank_closing]
    cases hdrop : cs.dropWhile isBlank with
    | nil =>
      have hnone : cs.head? ≠ some c := by
        intro h
        rw [hhead h] at hdrop
        simp [hdrop] at h
      simpa [closing, hnone] using hclosing
    | cons d ds =>
      by_cases hd : d = '#'
      · subst hd
        have hnone : cs.head? ≠ some c := by
          intro h
          rw [hhead h] at hdrop
          simp [hdrop, hsign] at h
        simp only [List.cons_append, dropWhile_isBlank_closing]
        cases ds.dropWhile isBlank with
        | nil => simpa [closing, hnone] using hclosing
        | cons e es => simp
      · simp [hd]

theorem classPrimitive?_suffix {c : Char} (h : classPrimitive? verbose (c :: cs) = some (primitive, rest)) :
    rest <:+ cs := by
  unfold classPrimitive? at h
  split at h
  · contradiction
  · rename_i inner heq
    obtain ⟨rfl, rfl⟩ := List.cons.inj heq
    cases cs with
    | nil => cases h
    | cons d cs => exact suffix_cons_of (escape?_suffix h)
  · rename_i heq
    obtain ⟨rfl, rfl⟩ := List.cons.inj heq
    cases h
    exact List.suffix_refl cs

/-- An item of a class is no anchor. -/
theorem classPrimitive?_of_append (hanchor : primitive ≠ .anchor .wordBoundary)
    (h : classPrimitive? verbose (cs ++ closing) = some (primitive, rest ++ closing)) :
    classPrimitive? verbose cs = some (primitive, rest) := by
  cases cs with
  | nil => exact absurd (classPrimitive?_suffix h) (not_append_suffix_of_lt (by decide))
  | cons c cs =>
    by_cases hc : c = '\\'
    · subst hc
      rcases escape?_of_append h with h | ⟨h, -⟩
      · exact h
      · exact absurd h hanchor
    · rw [List.cons_append] at h
      -- every other character stands for itself, whatever follows
      have hplain : ∀ l, classPrimitive? verbose (c :: l) = some (.plain c, l) := by
        intro l
        simp [classPrimitive?]
      rw [hplain] at h ⊢
      obtain ⟨rfl, hrest⟩ := Prod.mk.inj (Option.some.inj h)
      rw [List.append_cancel_right hrest]

/-- Whether a class keeps the hyphen in front of these characters, which then makes no range. -/
def KeepsHyphen (verbose : Bool) (cs : List Char) : Prop :=
  peekAfterDash verbose cs = some ']' ∨ peekAfterDash verbose cs = some '-'

theorem keepsHyphen_append : KeepsHyphen verbose (cs ++ closing) ↔ KeepsHyphen verbose cs :=
  or_congr (peekAfterDash_append (Or.inl rfl)) (peekAfterDash_append (Or.inr rfl))

/-- From what an item of a class is read: one character or escape, or the two ends of a range. -/
inductive ItemRead (verbose : Bool) (cs : List Char) : ClassSet → List Char → Prop where
  | single {first : Primitive} {item : ClassSet} {after rest : List Char} {c : Char} :
    classPrimitive? verbose cs = some (first, after) → skip verbose after = c :: rest →
    (c = '-' → KeepsHyphen verbose rest) → first.toItem? = some item → ItemRead verbose cs item (c :: rest)
  | range {first last : Primitive} {a b : Literal} {after more rest : List Char} :
    classPrimitive? verbose cs = some (first, after) → skip verbose after = '-' :: more →
    ¬ KeepsHyphen verbose more → classPrimitive? verbose (skip verbose more) = some (last, rest) →
    first.toLiteral? = some a → last.toLiteral? = some b → a.char ≤ b.char →
    ItemRead verbose cs (.range a b) rest

theorem classItem?_eq_some_iff : classItem? verbose cs = some (item, rest) ↔ ItemRead verbose cs item rest := by
  constructor
  · intro h
    obtain ⟨⟨first, after⟩, hfirst, h⟩ := Option.bind_eq_some_iff.mp h
    simp only at h
    split at h
    · -- nothing follows what is read first
      cases h
    · rename_i more hskip
      -- a hyphen follows: it is an item itself, or the mark of a range
      split_ifs at h with hkeep hempty
      · obtain ⟨found, hfound, h⟩ := Option.bind_eq_some_iff.mp h
        cases h
        exact .single hfirst hskip (fun _ => hkeep) hfound
      · obtain ⟨⟨last, rest'⟩, hlast, h⟩ := Option.bind_eq_some_iff.mp h
        obtain ⟨a, ha, h⟩ := Option.bind_eq_some_iff.mp h
        obtain ⟨b, hb, h⟩ := Option.bind_eq_some_iff.mp h
        split_ifs at h with hle
        cases h
        exact .range hfirst hskip hkeep hlast ha hb hle
    · -- something else follows
      rename_i hnil hhyphen
      obtain ⟨found, hfound, h⟩ := Option.bind_eq_some_iff.mp h
      cases h
      obtain ⟨c, more, hskip⟩ := List.exists_cons_of_ne_nil hnil
      rw [hskip] at hhyphen ⊢
      exact .single hfirst hskip (fun hc => (hhyphen more (by rw [hc])).elim) hfound
  · rintro (@⟨_, _, _, _, c, hfirst, hskip, hkeep, hfound⟩ | ⟨hfirst, hskip, hkeep, hlast, ha, hb, hle⟩)
    · by_cases hc : c = '-'
      · subst hc
        have hkeep : _ ∨ _ := hkeep rfl
        simp [classItem?, hfirst, hskip, hkeep, hfound]
      · simp [classItem?, hfirst, hskip, hc, hfound]
    · rename_i more
      have hempty : skip verbose more ≠ [] := by
        intro hnil
        rw [hnil] at hlast
        cases hlast
      unfold KeepsHyphen at hkeep
      simp [classItem?, hfirst, hskip, hkeep, hempty, hlast, ha, hb, hle]

theorem classItem?_suffix {c : Char} (h : classItem? verbose (c :: cs) = some (item, rest)) : rest <:+ cs := by
  cases classItem?_eq_some_iff.mp h with
  | single hfirst hskip _ _ => exact (hskip ▸ skip_suffix).trans (classPrimitive?_suffix hfirst)
  | @range _ _ _ _ _ more _ hfirst hskip _ hlast _ _ _ =>
    have hmore : more <:+ cs := (suffix_of_cons (hskip ▸ skip_suffix)).trans (classPrimitive?_suffix hfirst)
    cases hnext : skip verbose more with
    | nil =>
      rw [hnext] at hlast
      cases hlast
    | cons d next =>
      rw [hnext] at hlast
      exact ((classPrimitive?_suffix hlast).trans (suffix_of_cons (hnext ▸ skip_suffix))).trans hmore

theorem ne_wordBoundary_of_toItem? (h : primitive.toItem? = some item) : primitive ≠ .anchor .wordBoundary := by
  rintro rfl
  cases h

theorem ne_wordBoundary_of_toLiteral? {l : Literal} (h : primitive.toLiteral? = some l) :
    primitive ≠ .anchor .wordBoundary := by
  rintro rfl
  cases h

theorem ItemRead.single_of_append {first : Primitive} {after : List Char} {c : Char}
    (hfirst : classPrimitive? verbose (cs ++ closing) = some (first, after))
    (hskip : skip verbose after = c :: (rest ++ closing)) (hkeep : c = '-' → KeepsHyphen verbose (rest ++ closing))
    (hfound : first.toItem? = some item) : ItemRead verbose cs item (c :: rest) := by
  have hskip : skip verbose after = c :: rest ++ closing := hskip
  obtain ⟨after, rfl⟩ := exists_eq_append (hskip ▸ skip_suffix)
  exact .single (classPrimitive?_of_append (ne_wordBoundary_of_toItem? hfound) hfirst) (skip_of_append hskip)
    (fun hc => keepsHyphen_append.mp (hkeep hc)) hfound

/-- The last character of a range lies in the pattern as well. -/
theorem ItemRead.range_of_append {first last : Primitive} {a b : Literal} {after more : List Char}
    (hfirst : classPrimitive? verbose (cs ++ closing) = some (first, after))
    (hskip : skip verbose after = '-' :: more) (hkeep : ¬ KeepsHyphen verbose more)
    (hlast : classPrimitive? verbose (skip verbose more) = some (last, rest ++ closing))
    (ha : first.toLiteral? = some a) (hb : last.toLiteral? = some b) (hle : a.char ≤ b.char) :
    ItemRead verbose cs (.range a b) rest := by
  -- where the second end of the range is read, the end of the frame is still to come
  obtain ⟨next, hnext⟩ : ∃ next, skip verbose more = next ++ closing := by
    cases hnext : skip verbose more with
    | nil =>
      rw [hnext] at hlast
      cases hlast
    | cons d next =>
      rw [hnext] at hlast
      exact exists_eq_append (suffix_cons_of (classPrimitive?_suffix hlast))
  rw [hnext] at hlast
  obtain ⟨more, rfl⟩ := exists_eq_append (hnext ▸ skip_suffix)
  obtain ⟨after, rfl⟩ := exists_eq_append (suffix_of_cons (hskip ▸ skip_suffix))
  have hfirst := classPrimitive?_of_append (ne_wordBoundary_of_toLiteral? ha) hfirst
  have hlast := classPrimitive?_of_append (ne_wordBoundary_of_toLiteral? hb) hlast
  rw [keepsHyphen_append] at hkeep
  rw [← skip_of_append hnext] at hlast
  exact .range hfirst (skip_of_append hskip) hkeep hlast ha hb hle

theorem classItem?_of_append (hne : rest ≠ [])
    (h : classItem? verbose (cs ++ closing) = some (item, rest ++ closing)) :
    classItem? verbose cs = some (item, rest) := by
  rw [classItem?_eq_some_iff] at h ⊢
  obtain ⟨d, rest, rfl⟩ := List.exists_cons_of_ne_nil hne
  generalize hrest : d :: rest ++ closing = r at h
  cases h with
  | single hfirst hskip hkeep hfound =>
    obtain ⟨rfl, rfl⟩ := List.cons.inj hrest
    exact .single_of_append hfirst hskip hkeep hfound
  | range hfirst hskip hkeep hlast ha hb hle =>
    subst hrest
    exact .range_of_append hfirst hskip hkeep hlast ha hb hle

end Items

/-! ## Whole classes -/

section Whole

variable {node : Node} {fuel : Nat} {stack stack' : List ClassFrame} {items items' : List ClassSet}

/-- What one turn of a class reads, once what does not count has been passed over. It leaves what is open and the
items for the next turn. -/
inductive ClassTurn (verbose : Bool) (stack : List ClassFrame) (items : List ClassSet) :
    List Char → List ClassFrame → List ClassSet → List Char → Prop where
  | named {cs rest : List Char} {item : ClassSet} :
    namedClass? cs = some (item, rest) → ClassTurn verbose stack items ('[' :: cs) stack (item :: items) rest
  | opened {cs rest : List Char} {negated : Bool} {inner : List ClassSet} :
    namedClass? cs = none → openClass? verbose cs = some (negated, inner, rest) →
    ClassTurn verbose stack items ('[' :: cs) (.bracket items negated :: stack) inner rest
  | closed {cs : List Char} {set : ClassSet} {outer : List ClassSet} {negated : Bool} {stack' : List ClassFrame} :
    closeOp stack (.ofItems items.reverse) = (set, .bracket outer negated :: stack') → stack' ≠ [] →
    ClassTurn verbose stack items (']' :: cs) stack' (.bracketed negated set :: outer) cs
  | op {cs : List Char} {c d : Char} {kind : SetOp} :
    c ≠ '[' → c ≠ ']' → setOp? c d = some kind →
    ClassTurn verbose stack items (c :: d :: cs) (.op kind (closeOp stack (.ofItems items.reverse)).1 ::
      (closeOp stack (.ofItems items.reverse)).2) [] cs
  | item {cs rest : List Char} {c d : Char} {item : ClassSet} :
    c ≠ '[' → c ≠ ']' → setOp? c d = none → classItem? verbose (c :: d :: cs) = some (item, rest) →
    ClassTurn verbose stack items (c :: d :: cs) stack (item :: items) rest

/-- A class ends with the bracket that closes the outermost one, or takes a turn and goes on. -/
theorem classLoop?_succ_eq_some_iff :
    classLoop? verbose (fuel + 1) stack items cs = some (node, rest) ↔
      (∃ set outer negated, skip verbose cs = ']' :: rest ∧
        closeOp stack (.ofItems items.reverse) = (set, [.bracket outer negated]) ∧ node = .bracketed negated set) ∨
      ∃ stack' items' after, ClassTurn verbose stack items (skip verbose cs) stack' items' after ∧
        classLoop? verbose fuel stack' items' after = some (node, rest) := by
  rw [classLoop?]
  generalize skip verbose cs = start
  constructor
  · intro h
    -- turn by turn in the order in which the loop looks at what comes next
    split at h
    · cases h
    · split at h
      · rename_i hname
        exact Or.inr ⟨_, _, _, .named hname, h⟩
      · rename_i hname
        obtain ⟨⟨negated, inner, after⟩, hopen, h⟩ := Option.bind_eq_some_iff.mp h
        exact Or.inr ⟨_, _, _, .opened hname hopen, h⟩
    · split at h
      · rename_i hclose
        split_ifs at h with hempty
        · cases h
          rw [List.isEmpty_iff.mp hempty] at hclose
          exact Or.inl ⟨_, _, _, rfl, hclose, rfl⟩
        · exact Or.inr ⟨_, _, _, .closed hclose (mt List.isEmpty_iff.mpr hempty), h⟩
      · cases h
    · rename_i hopen hclose
      split at h
      · rename_i hop
        exact Or.inr ⟨_, _, _, .op hopen hclose hop, h⟩
      · rename_i hop
        obtain ⟨⟨item, after⟩, hitem, h⟩ := Option.bind_eq_some_iff.mp h
        exact Or.inr ⟨_, _, _, .item hopen hclose hop hitem, h⟩
    · cases h
  · rintro (⟨_, _, _, rfl, hclose, rfl⟩ | ⟨_, _, _, hturn, h⟩)
    · simp [hclose]
    · cases hturn with
      | named hname => simp [hname, h]
      | opened hname hopen => simp [hname, hopen, h]
      | closed hclose hne => simp [hclose, hne, h]
      | op hopen hclose hop => simp [hop, h]
      | item hopen hclose hop hitem => simp [hop, hitem, h]

theorem ClassTurn.suffix {start : List Char} (h : ClassTurn verbose stack items start stack' items' rest) :
    rest <:+ start.tail := by
  cases h with
  | named hname => exact suffix_of_cons (namedClass?_suffix hname)
  | opened _ hopen => exact openClass?_suffix hopen
  | closed _ _ => exact List.suffix_refl _
  | op _ _ _ => exact List.suffix_cons _ _
  | item _ _ _ hitem => exact classItem?_suffix hitem

/-- A turn that leaves something in front of the end of the frame is a turn of the pattern itself. -/
theorem ClassTurn.of_append (hne : rest ≠ [])
    (h : ClassTurn verbose stack items (cs ++ closing) stack' items' (rest ++ closing)) :
    ClassTurn verbose stack items cs stack' items' rest := by
  generalize hcs : cs ++ closing = l, hrest : rest ++ closing = r at h
  cases h with
  | named hname =>
    subst hrest
    obtain ⟨inner, rfl, rfl⟩ := exists_of_append_closing_eq_cons hcs (by decide)
    exact .named (namedClass?_of_append hname)
  | opened hname hopen =>
    subst hrest
    obtain ⟨inner, rfl, rfl⟩ := exists_of_append_closing_eq_cons hcs (by decide)
    exact .opened (namedClass?_eq_none_of_append hname) (openClass?_of_append hne hopen)
  | closed hclose hstack =>
    subst hrest
    obtain rfl : cs = ']' :: rest := List.append_cancel_right hcs
    exact .closed hclose hstack
  | @op _ c d _ hopen hclose hop =>
    subst hrest
    obtain rfl : cs = c :: d :: rest := List.append_cancel_right hcs
    exact .op hopen hclose hop
  | item hopen hclose hop hitem =>
    subst hrest
    rw [← hcs] at hitem
    have hitem := classItem?_of_append hne hitem
    -- a row that is too short for two characters leaves no item in front of the end
    match cs, hcs with
    | [], _ => cases hitem
    | [_], _ => exact absurd (List.suffix_nil.mp (classItem?_suffix hitem)) hne
    | _ :: _ :: _, hcs =>
      obtain ⟨rfl, htail⟩ := List.cons.inj hcs
      obtain ⟨rfl, -⟩ := List.cons.inj htail
      exact .item hopen hclose hop hitem

/-- A class ends with a bracket. -/
theorem classLoop?_bracket (h : classLoop? verbose fuel stack items cs = some (node, rest)) :
    ']' :: rest <:+ skip verbose cs := by
  induction fuel generalizing stack items cs with
  | zero => cases h
  | succ fuel ih =>
    rcases classLoop?_succ_eq_some_iff.mp h with ⟨_, _, _, hskip, -, -⟩ | ⟨_, _, _, hturn, h⟩
    · exact hskip ▸ List.suffix_refl _
    · exact (((ih h).trans skip_suffix).trans hturn.suffix).trans (List.tail_suffix _)

theorem classLoop?_of_append {fuel' : Nat} (hfuel : cs.length < fuel')
    (h : classLoop? verbose fuel stack items (cs ++ closing) = some (node, rest ++ closing)) :
    classLoop? verbose fuel' stack items cs = some (node, rest) := by
  induction fuel generalizing fuel' stack items cs with
  | zero => cases h
  | succ fuel ih =>
    obtain ⟨fuel', rfl⟩ := Nat.exists_eq_add_one_of_ne_zero (Nat.ne_zero_of_lt hfuel)
    rw [classLoop?_succ_eq_some_iff]
    rcases classLoop?_succ_eq_some_iff.mp h with ⟨set, outer, negated, hskip, hclose, rfl⟩ | ⟨_, _, _, hturn, h⟩
    · exact Or.inl ⟨set, outer, negated, skip_of_append hskip, hclose, rfl⟩
    · -- what the next turn starts from lies in front of the closing bracket, so in the pattern
      obtain ⟨d, inner, rfl⟩ := exists_cons_append ((classLoop?_bracket h).trans skip_suffix)
      have hsuffix : d :: inner ++ closing <:+ (skip verbose (cs ++ closing)).tail := hturn.suffix
      obtain ⟨start, hstart⟩ := exists_eq_append (hsuffix.trans (List.tail_suffix _))
      have hskip : skip verbose cs = start := skip_of_append hstart
      rw [hstart] at hturn
      have hturn := ClassTurn.of_append (List.cons_ne_nil d inner) hturn
      have hlength : inner.length + 1 ≤ start.length - 1 := by simpa using hturn.suffix.length_le
      have hstart : start.length ≤ cs.length := hskip ▸ skip_suffix.length_le
      exact Or.inr ⟨_, _, d :: inner, hskip ▸ hturn, ih (by rw [List.length_cons]; omega) h⟩

theorem bracketed?_suffix (h : bracketed? verbose cs = some (node, rest)) : rest <:+ cs := by
  obtain ⟨⟨negated, items, after⟩, hopen, h⟩ := Option.bind_eq_some_iff.mp h
  exact suffix_of_cons (((classLoop?_bracket h).trans skip_suffix).trans (openClass?_suffix hopen))

theorem bracketed?_of_append (h : bracketed? verbose (cs ++ closing) = some (node, rest ++ closing)) :
    bracketed? verbose cs = some (node, rest) := by
  obtain ⟨⟨negated, items, after⟩, hopen, h⟩ := Option.bind_eq_some_iff.mp h
  obtain ⟨d, inner, rfl⟩ := exists_cons_append ((classLoop?_bracket h).trans skip_suffix)
  have hopen := openClass?_of_append (List.cons_ne_nil d inner) hopen
  have hlength := (openClass?_suffix hopen).length_le
  have hloop := classLoop?_of_append (Nat.lt_succ_of_le hlength) h
  simp [bracketed?, hopen, hloop]

end Whole

end AccessDecision.Pattern
