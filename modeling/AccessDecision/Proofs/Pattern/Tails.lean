import AccessDecision.Proofs.Pattern.Tokens

/-!
# Text behind a pattern

What is read from a pattern is read in the same way with more text behind it, as long as something is left over in
between or the text starts with a closing parenthesis (`Stops`): no token can go on there.  The one exception is a
comment at the end of a pattern, which runs on to the end of its line and takes the text with it
(`token?_append`).
-/

namespace AccessDecision.Pattern

open Text (isBlank)

variable {verbose inComment : Bool} {p : Char → Bool} {cs rest tail : List Char} {c : Char}

/-- A text in front of which nothing that ends at `rest` can go on. -/
def Stops (rest tail : List Char) : Prop := rest ≠ [] ∨ tail.head? = some ')'

/-- There is a number sign in the last line. -/
def HasOpenSign (cs : List Char) : Prop := ∃ before comment, cs = before ++ '#' :: comment ∧ '\n' ∉ comment

theorem Stops.of_cons : Stops (c :: rest) tail := Or.inl (List.cons_ne_nil c rest)

theorem Stops.exists_cons (h : Stops [] tail) : ∃ more, tail = ')' :: more := by
  rcases h with h | h
  · exact absurd rfl h
  · exact List.head?_eq_some_iff.mp h

theorem HasOpenSign.cons (h : HasOpenSign cs) : HasOpenSign (c :: cs) := by
  obtain ⟨before, comment, rfl, hline⟩ := h
  exact ⟨c :: before, comment, rfl, hline⟩

theorem HasOpenSign.of_suffix (h : HasOpenSign rest) (hsuffix : rest <:+ cs) : HasOpenSign cs := by
  obtain ⟨start, rfl⟩ := hsuffix
  induction start with
  | nil => exact h
  | cons c start ih => exact ih.cons

theorem HasOpenSign.ne_nil (h : HasOpenSign cs) : cs ≠ [] := by
  obtain ⟨before, comment, rfl, -⟩ := h
  simp

/-- With more text behind it a reader finds the same and leaves the rest with that text, or a comment at its end
takes the rest of the line. -/
def ReadsOn {α : Type} (read : List Char → Option (α × List Char)) (cs : List Char) (found : α)
    (rest : List Char) :
    Prop :=
  (∀ tail, Stops rest tail → read (cs ++ tail) = some (found, rest ++ tail)) ∨
    rest = [] ∧ HasOpenSign cs ∧ ∀ line, '\n' ∉ line → read (cs ++ line) = some (found, [])

/-- What is made of the answers of a reader reads on as that reader does. -/
theorem ReadsOn.lift {α β : Type} {read : List Char → Option (α × List Char)}
    {read' : List Char → Option (β × List Char)} {a : α} {b : β} (h : ReadsOn read cs a rest)
    (hread : ∀ l after, read l = some (a, after) → read' l = some (b, after)) : ReadsOn read' cs b rest := by
  rcases h with hgo | ⟨hrest, hsign, hline⟩
  · exact Or.inl fun tail hstop => hread _ _ (hgo tail hstop)
  · exact Or.inr ⟨hrest, hsign, fun line hl => hread _ _ (hline line hl)⟩

/-! ## What does not count -/

theorem skipVerbose_line (h : '\n' ∉ cs) : skipVerbose true cs = [] := by
  induction cs with
  | nil => rfl
  | cons c cs ih =>
    obtain ⟨hc, hcs⟩ := List.ne_and_not_mem_of_not_mem_cons h
    have hopen : (c != '\n') = true := by simpa using Ne.symm hc
    unfold skipVerbose
    rw [if_pos rfl, hopen]
    exact ih hcs

theorem skipVerbose_append (h : skipVerbose inComment cs = c :: rest) (tail : List Char) :
    skipVerbose inComment (cs ++ tail) = c :: (rest ++ tail) := by
  induction cs generalizing inComment with
  | nil => cases h
  | cons d cs ih =>
    rw [List.cons_append]
    unfold skipVerbose at h ⊢
    split_ifs at h ⊢
    · exact ih h
    · exact ih h
    · exact ih h
    · cases h
      rfl

/-- Where nothing counts, either a parenthesis behind it does, or a comment takes the rest of the line. -/
theorem skipVerbose_nil_append (h : skipVerbose inComment cs = []) :
    (∀ more, skipVerbose inComment (cs ++ ')' :: more) = ')' :: more) ∨
      (inComment = true ∧ '\n' ∉ cs ∨ HasOpenSign cs) ∧
        ∀ line, '\n' ∉ line → skipVerbose inComment (cs ++ line) = [] := by
  induction cs generalizing inComment with
  | nil =>
    cases inComment with
    | true => exact Or.inr ⟨Or.inl ⟨rfl, List.not_mem_nil⟩, fun line hline => skipVerbose_line hline⟩
    | false => exact Or.inl fun more => rfl
  | cons c cs ih =>
    unfold skipVerbose at h ⊢
    simp only [List.cons_append]
    -- in a comment, at a blank, or where a comment begins
    split_ifs at h ⊢ with hcomment hblank hsign
    · rcases ih h with hclose | ⟨hsign | hsign, hline⟩
      · exact Or.inl hclose
      · refine Or.inr ⟨Or.inl ⟨hcomment, ?_⟩, hline⟩
        have hc : c ≠ '\n' := by simpa using hsign.1
        exact List.not_mem_cons_of_ne_of_not_mem hc.symm hsign.2
      · exact Or.inr ⟨Or.inr hsign.cons, hline⟩
    · rcases ih h with hclose | ⟨hsign | hsign, hline⟩
      · exact Or.inl hclose
      · exact absurd hsign.1 Bool.false_ne_true
      · exact Or.inr ⟨Or.inr hsign.cons, hline⟩
    · rcases ih h with hclose | ⟨hopen | hopen, hline⟩
      · exact Or.inl hclose
      · exact Or.inr ⟨Or.inr ⟨[], cs, by rw [hsign]; rfl, hopen.2⟩, hline⟩
      · exact Or.inr ⟨Or.inr hopen.cons, hline⟩

theorem skip_append (h : skip verbose cs = c :: rest) (tail : List Char) :
    skip verbose (cs ++ tail) = c :: (rest ++ tail) := by
  unfold skip at h ⊢
  split_ifs at h ⊢
  · exact skipVerbose_append h tail
  · rw [h]
    rfl

theorem skip_nil_append (h : skip verbose cs = []) :
    (∀ more, skip verbose (cs ++ ')' :: more) = ')' :: more) ∨
      HasOpenSign cs ∧ ∀ line, '\n' ∉ line → skip verbose (cs ++ line) = [] := by
  unfold skip at h ⊢
  split_ifs at h ⊢
  · rcases skipVerbose_nil_append h with hclose | ⟨hsign | hsign, hline⟩
    · exact Or.inl hclose
    · exact absurd hsign.1 Bool.false_ne_true
    · exact Or.inr ⟨hsign, hline⟩
  · subst h
    exact Or.inl fun more => rfl

/-! ## Runs of characters and numbers -/

theorem dropWhile_append (h : cs.dropWhile p = c :: rest) (tail : List Char) :
    (cs ++ tail).dropWhile p = c :: (rest ++ tail) := by
  rw [List.dropWhile_append, h]
  rfl

theorem takeRun_append {run : List Char} (h : takeRun verbose inComment p cs = (run, c :: rest))
    (tail : List Char) :
    takeRun verbose inComment p (cs ++ tail) = (run, c :: (rest ++ tail)) := by
  induction cs generalizing inComment run with
  | nil => cases h
  | cons d cs ih =>
    rw [List.cons_append]
    unfold takeRun at h ⊢
    split_ifs at h ⊢
    · exact ih h
    · exact ih h
    · exact ih h
    · obtain ⟨rfl, hrest⟩ := Prod.mk.inj h
      rw [ih (Prod.ext rfl hrest)]
    · cases h
      rfl

theorem hexDigits?_append {count : Nat} {digits : List Char}
    (h : hexDigits? verbose inComment count cs = some (digits, rest)) (tail : List Char) :
    hexDigits? verbose inComment count (cs ++ tail) = some (digits, rest ++ tail) := by
  induction cs generalizing inComment count digits with
  | nil =>
    cases count with
    | zero =>
      cases h
      cases tail <;> rfl
    | succ n => cases h
  | cons c cs ih =>
    cases count with
    | zero =>
      cases h
      rfl
    | succ n =>
      rw [List.cons_append]
      unfold hexDigits? at h ⊢
      split_ifs at h ⊢
      · exact ih h
      · exact ih h
      · exact ih h
      · obtain ⟨⟨digits', rest'⟩, hdigits, heq⟩ := Option.map_eq_some_iff.mp h
        obtain ⟨rfl, rfl⟩ := Prod.mk.inj heq
        rw [ih hdigits]
        rfl

theorem decimal?_append {n : Nat} (h : decimal? verbose cs = some (n, c :: rest)) (tail : List Char) :
    decimal? verbose (cs ++ tail) = some (n, c :: (rest ++ tail)) := by
  simp only [decimal?] at h
  split_ifs at h with hempty
  obtain ⟨hn, hrest⟩ := Prod.mk.inj (Option.some.inj h)
  obtain ⟨run, after, hrun⟩ : ∃ run after,
    takeRun verbose false Char.isDigit (cs.dropWhile isBlank) = (run, after) := ⟨_, _, rfl⟩
  rw [hrun] at hn hrest hempty
  cases after with
  | nil => cases hrest
  | cons d after =>
    cases hstart : cs.dropWhile isBlank with
    | nil =>
      rw [hstart] at hrun
      cases hrun
    | cons e start =>
      rw [hstart] at hrun
      have hrun := takeRun_append hrun tail
      rw [List.cons_append] at hrun
      simp only [decimal?]
      rw [dropWhile_append hstart tail, hrun, if_neg hempty, ← List.cons_append, dropWhile_append hrest tail, ← hn]

/-! ## Escapes -/

section Escapes

variable {primitive : Primitive}

theorem hexEscape?_append {count : Nat} (hcount : count ≠ 0)
    (h : hexEscape? verbose count cs = some (primitive, rest)) (tail : List Char) :
    hexEscape? verbose count (cs ++ tail) = some (primitive, rest ++ tail) := by
  rw [hexEscape?_eq_some_iff] at h ⊢
  cases h with
  | braced hskip hrun hne hc => exact .braced (skip_append hskip tail) (takeRun_append hrun tail) hne hc
  | counted hbrace hdigits hc =>
    -- a digit is read, so skipping does not come to the end of the text
    cases hskip : skip verbose cs with
    | nil =>
      rw [hskip] at hdigits
      obtain ⟨n, rfl⟩ := Nat.exists_eq_add_one_of_ne_zero hcount
      cases hdigits
    | cons d start =>
      rw [hskip] at hdigits hbrace
      refine .counted (fun inner heq => hbrace start ?_) ?_ hc
      · rw [(List.cons.inj ((skip_append hskip tail).symm.trans heq)).1]
      · rw [skip_append hskip tail]
        exact hexDigits?_append hdigits tail

theorem propertyEscape?_append {negated : Bool} (h : propertyEscape? verbose negated cs = some (primitive, rest))
    (tail : List Char) : propertyEscape? verbose negated (cs ++ tail) = some (primitive, rest ++ tail) := by
  rw [propertyEscape?_eq_some_iff] at h ⊢
  cases h with
  | braced hskip hrun => exact .braced (skip_append hskip tail) (takeRun_append hrun tail)
  | letter hskip hbrace hc => exact .letter (skip_append hskip tail) hbrace hc

theorem wordBoundary?_append (hstop : Stops rest tail) (h : wordBoundary? verbose cs = some (primitive, rest)) :
    wordBoundary? verbose (cs ++ tail) = some (primitive, rest ++ tail) := by
  rw [wordBoundary?_eq_some_iff] at h ⊢
  cases h with
  | plain hbrace =>
    refine .plain fun more hmore => ?_
    cases cs with
    | nil =>
      obtain ⟨after, rfl⟩ := hstop.exists_cons
      cases hmore
    | cons c cs => exact hbrace cs (by rw [(List.cons.inj hmore).1])
  | repeated hskip hname => exact .repeated (skip_append hskip tail) hname
  | named hskip hname hrun hkind =>
    have hrun := takeRun_append hrun tail
    rw [List.cons_append] at hrun
    exact .named (skip_append hskip tail) hname hrun hkind

theorem escape?_append (hstop : Stops rest tail) (h : escape? verbose cs = some (primitive, rest)) :
    escape? verbose (cs ++ tail) = some (primitive, rest ++ tail) := by
  cases cs with
  | nil => cases h
  | cons c cs =>
    simp only [List.cons_append, escape?] at h ⊢
    split_ifs at h ⊢
    · exact hexEscape?_append (by decide) h tail
    · exact hexEscape?_append (by decide) h tail
    · exact hexEscape?_append (by decide) h tail
    · exact propertyEscape?_append h tail
    · exact propertyEscape?_append h tail
    · exact wordBoundary?_append hstop h
    · cases h
      rfl
    · obtain ⟨found, hfound, heq⟩ := Option.map_eq_some_iff.mp h
      cases heq
      rw [hfound]
      rfl

end Escapes

/-! ## Classes between brackets -/

section Classes

variable {negated negated' : Bool} {items : List ClassSet} {item : ClassSet}

/-- No name of a class holds a bracket. -/
theorem bracket_not_mem_of_lookup {name : List Char} {cls : NamedClass}
    (h : classNames.lookup (String.ofList name) = some cls) : ']' ∉ name := by
  have hall : ∀ entry ∈ classNames, ']' ∉ entry.1.toList := by decide
  obtain ⟨l, l', heq, -⟩ := List.lookup_eq_some_iff.mp h
  have hname := hall (String.ofList name, cls) (by rw [heq]; simp)
  simpa using hname

/-- A class between colons ends at the first bracket. -/
theorem exists_bracket_of_namedClass? (h : namedClass? cs = some (item, rest)) :
    ∃ start, cs = start ++ ']' :: rest ∧ ']' ∉ start := by
  obtain ⟨c, inner, rfl, hname⟩ := exists_colon_of_namedClass? h
  generalize hbody : (if c = '^' then inner else c :: inner) = body at hname
  unfold nameUpToColon? at hname
  rw [List.span_eq_takeWhile_dropWhile] at hname
  split at hname
  · rename_i name after hspan
    obtain ⟨cls, hcls, heq⟩ := Option.map_eq_some_iff.mp hname
    cases heq
    obtain ⟨htake, hdrop⟩ := Prod.mk.inj hspan
    have hsplit : body = name ++ ':' :: ']' :: rest := by
      rw [← List.takeWhile_append_dropWhile (p := (· != ':')) (l := body), htake, hdrop]
    -- the name is one of a list, and none of these has a bracket
    have hnot := bracket_not_mem_of_lookup hcls
    split_ifs at hbody with hc
    · refine ⟨':' :: c :: (name ++ [':']), by simp [hbody, hsplit], ?_⟩
      simp [hnot, hc]
    · refine ⟨':' :: (name ++ [':']), by simp [hbody, hsplit], ?_⟩
      simp [hnot]
  · cases hname

/-- Behind a bracket no class between colons can begin to end. -/
theorem namedClass?_append_none (h : namedClass? cs = none) (hbracket : ']' ∈ cs) (tail : List Char) :
    namedClass? (cs ++ tail) = none := by
  rw [Option.eq_none_iff_forall_ne_some]
  rintro ⟨item, after⟩ hfound
  obtain ⟨start, heq, hstart⟩ := exists_bracket_of_namedClass? hfound
  rcases List.append_eq_append_iff.mp heq with ⟨more, rfl, -⟩ | ⟨more, rfl, hmore⟩
  · exact hstart (List.mem_append_left more hbracket)
  · cases more with
    | nil =>
      rw [List.append_nil] at hbracket
      exact hstart hbracket
    | cons d more =>
      obtain ⟨rfl, rfl⟩ := List.cons.inj hmore
      rw [namedClass?_of_append hfound] at h
      cases h

theorem leadingHyphens_append (h : leadingHyphens verbose cs = (items, c :: rest)) (tail : List Char) :
    leadingHyphens verbose (cs ++ tail) = (items, c :: (rest ++ tail)) := by
  obtain ⟨hitems, hrest⟩ := Prod.mk.inj h
  unfold leadingHyphens
  rw [takeRun_append (Prod.ext rfl hrest), ← hitems]

theorem ItemsOpened.append (h : ItemsOpened verbose cs items rest) (tail : List Char) :
    ItemsOpened verbose (cs ++ tail) items (rest ++ tail) := by
  cases h with
  | bracket hrun hskip hne =>
    obtain ⟨c, rest, rfl⟩ := List.exists_cons_of_ne_nil hne
    exact .bracket (leadingHyphens_append hrun tail) (skip_append hskip tail) nofun
  | hyphens hrun hne hbracket =>
    obtain ⟨c, rest, rfl⟩ := List.exists_cons_of_ne_nil hne
    exact .hyphens (leadingHyphens_append hrun tail) nofun fun more hmore =>
      hbracket rest (by rw [(List.cons.inj hmore).1])

theorem openItems?_append (h : openItems? verbose negated cs = some (negated', items, rest)) (tail : List Char) :
    openItems? verbose negated (cs ++ tail) = some (negated', items, rest ++ tail) := by
  rw [openItems?_eq_some_iff] at h ⊢
  exact ⟨h.1, h.2.append tail⟩

theorem openClass?_append (h : openClass? verbose cs = some (negated, items, rest)) (tail : List Char) :
    openClass? verbose (cs ++ tail) = some (negated, items, rest ++ tail) := by
  have hnil : ∀ negated, openItems? verbose negated [] = none := fun _ => rfl
  by_cases hcaret : (skip verbose cs).head? = some '^'
  · obtain ⟨more, hmore⟩ := List.head?_eq_some_iff.mp hcaret
    rw [openClass?_caret hmore] at h
    rw [openClass?_caret (skip_append hmore tail)]
    -- without an item the class does not open
    cases hskip : skip verbose more with
    | nil =>
      rw [hskip, hnil] at h
      cases h
    | cons d start =>
      rw [hskip] at h
      rw [skip_append hskip tail]
      exact openItems?_append h tail
  · rw [openClass?_plain hcaret] at h
    cases hskip : skip verbose cs with
    | nil =>
      rw [hskip, hnil] at h
      cases h
    | cons d start =>
      have hskip' := skip_append hskip tail
      rw [hskip] at h hcaret
      rw [openClass?_plain (by rw [hskip']; exact hcaret), hskip']
      exact openItems?_append h tail

/-! ### Items -/

theorem skipVerbose_of_blank (h : cs.dropWhile isBlank = []) : skipVerbose inComment cs = [] := by
  induction cs generalizing inComment with
  | nil => rfl
  | cons d cs ih =>
    rw [List.dropWhile_cons] at h
    split_ifs at h with hblank
    unfold skipVerbose
    rw [if_pos hblank]
    split_ifs
    · exact ih h
    · exact ih h

theorem skipVerbose_dropWhile : skipVerbose false (cs.dropWhile isBlank) = skipVerbose false cs := by
  induction cs with
  | nil => rfl
  | cons d cs ih =>
    rw [List.dropWhile_cons]
    split_ifs with hblank
    · rw [ih, skipVerbose, if_neg Bool.false_ne_true, if_pos hblank]
    · rfl

/-- What a class sees behind the first hyphen of a verbose pattern, if it sees anything. -/
def pastSign (cs : List Char) : List Char :=
  match cs.dropWhile isBlank with
  | '#' :: more => more.dropWhile isBlank
  | other => other

theorem pastSign_append (h : pastSign cs = c :: rest) (tail : List Char) :
    pastSign (cs ++ tail) = c :: (rest ++ tail) := by
  unfold pastSign at h ⊢
  cases hdrop : cs.dropWhile isBlank with
  | nil =>
    rw [hdrop] at h
    cases h
  | cons d more =>
    rw [hdrop] at h
    rw [dropWhile_append hdrop tail]
    by_cases hsign : d = '#'
    · subst hsign
      exact dropWhile_append h tail
    · simp only [List.cons.injEq, hsign, false_and, imp_self, implies_true] at h ⊢
      obtain ⟨rfl, rfl⟩ := h
      exact ⟨rfl, rfl⟩

theorem skip_of_pastSign_nil (h : pastSign cs = []) : skip true cs = [] := by
  show skipVerbose false cs = []
  rw [← skipVerbose_dropWhile]
  unfold pastSign at h
  split at h
  · rename_i more hdrop
    rw [hdrop]
    show skipVerbose true more = []
    exact skipVerbose_of_blank h
  · rw [h]
    rfl

theorem peekAfterDash_verbose : peekAfterDash true cs = (pastSign cs).head?.orElse fun _ => cs.head? := rfl

/-- Behind a hyphen a class sees the same with more text, if there is something to be read. -/
theorem peekAfterDash_append_of_skip (h : skip verbose cs = c :: rest) (tail : List Char) :
    peekAfterDash verbose (cs ++ tail) = peekAfterDash verbose cs := by
  cases verbose with
  | false =>
    obtain rfl : cs = c :: rest := h
    rfl
  | true =>
    cases hsign : pastSign cs with
    | nil =>
      rw [skip_of_pastSign_nil hsign] at h
      cases h
    | cons d more =>
      rw [peekAfterDash_verbose, peekAfterDash_verbose, pastSign_append hsign tail, hsign]
      rfl

/-- A class sees the same bracket or hyphen behind a hyphen with more text. -/
theorem peekAfterDash_append_of_some {d : Char} (hd : d = ']' ∨ d = '-') (h : peekAfterDash verbose cs = some d)
    (tail : List Char) : peekAfterDash verbose (cs ++ tail) = some d := by
  have hblank : isBlank d = false := by rcases hd with rfl | rfl <;> decide
  have hnot : d ≠ '#' := by rcases hd with rfl | rfl <;> decide
  cases verbose with
  | false =>
    obtain ⟨more, rfl⟩ := List.head?_eq_some_iff.mp h
    rfl
  | true =>
    rw [peekAfterDash_verbose] at h ⊢
    cases hsign : pastSign cs with
    | nil =>
      -- then the first character is blank or a number sign
      rw [hsign] at h
      obtain ⟨more, rfl⟩ := List.head?_eq_some_iff.mp h
      simp [pastSign, hblank, hnot] at hsign
    | cons e more =>
      rw [hsign] at h
      rw [pastSign_append hsign tail]
      exact h

theorem classPrimitive?_append {primitive : Primitive} (hstop : Stops rest tail)
    (h : classPrimitive? verbose cs = some (primitive, rest)) :
    classPrimitive? verbose (cs ++ tail) = some (primitive, rest ++ tail) := by
  cases cs with
  | nil => cases h
  | cons d cs =>
    by_cases hd : d = '\\'
    · subst hd
      exact escape?_append hstop h
    · have hplain : ∀ l, classPrimitive? verbose (d :: l) = some (.plain d, l) := by
        intro l
        simp [classPrimitive?]
      rw [List.cons_append]
      rw [hplain] at h ⊢
      cases h
      rfl

theorem KeepsHyphen.append (h : KeepsHyphen verbose cs) (tail : List Char) : KeepsHyphen verbose (cs ++ tail) :=
  h.imp (peekAfterDash_append_of_some (Or.inl rfl) · tail) (peekAfterDash_append_of_some (Or.inr rfl) · tail)

theorem classItem?_append (h : classItem? verbose cs = some (item, c :: rest)) (tail : List Char) :
    classItem? verbose (cs ++ tail) = some (item, c :: (rest ++ tail)) := by
  rw [classItem?_eq_some_iff] at h ⊢
  -- something is left behind the first character, so nothing of the text behind is read with it
  have hgoes {first : Primitive} {d : Char} {after more : List Char} (hskip : skip verbose after = d :: more)
      (hfirst : classPrimitive? verbose cs = some (first, after)) :
      classPrimitive? verbose (cs ++ tail) = some (first, after ++ tail) := by
    refine classPrimitive?_append (Or.inl ?_) hfirst
    rintro rfl
    rw [skip_nil] at hskip
    cases hskip
  cases h with
  | single hfirst hskip hkeep hfound =>
    exact .single (hgoes hskip hfirst) (skip_append hskip tail) (fun hc => (hkeep hc).append tail) hfound
  | @range _ last _ _ _ more _ hfirst hskip hkeep hlast ha hb hle =>
    cases hnext : skip verbose more with
    | nil =>
      rw [hnext] at hlast
      cases hlast
    | cons d next =>
      have hkeep : ¬ KeepsHyphen verbose (more ++ tail) := by
        unfold KeepsHyphen at hkeep ⊢
        rwa [peekAfterDash_append_of_skip hnext tail]
      have hlast : classPrimitive? verbose (skip verbose (more ++ tail)) = some (last, c :: (rest ++ tail)) := by
        rw [hnext] at hlast
        rw [skip_append hnext tail]
        exact classPrimitive?_append .of_cons hlast
      exact .range (hgoes hskip hfirst) (skip_append hskip tail) hkeep hlast ha hb hle

/-! ### Whole classes -/

section Loop

variable {node : Node} {fuel fuel' : Nat} {stack stack' : List ClassFrame} {items' : List ClassSet}

/-- With more text behind it a turn of a class is the same, if the class ends. -/
theorem ClassTurn.append (hbracket : ']' ∈ rest) (h : ClassTurn verbose stack items (c :: cs) stack' items' rest)
    (tail : List Char) : ClassTurn verbose stack items (c :: (cs ++ tail)) stack' items' (rest ++ tail) := by
  have hmem : ']' ∈ cs := h.suffix.subset hbracket
  cases h with
  | named hname => exact .named (namedClass?_append hname tail)
  | opened hname hopen => exact .opened (namedClass?_append_none hname hmem tail) (openClass?_append hopen tail)
  | closed hclose hstack => exact .closed hclose hstack
  | op hopen hclose hop => exact .op hopen hclose hop
  | item hopen hclose hop hitem =>
    obtain ⟨d, more, rfl⟩ := List.exists_cons_of_ne_nil (List.ne_nil_of_mem hbracket)
    exact .item hopen hclose hop (classItem?_append hitem tail)

/-- With more text behind it a class is read on in the same way, if there are rounds enough. -/
theorem classLoop?_append (hfuel : fuel ≤ fuel') (h : classLoop? verbose fuel stack items cs = some (node, rest))
    (tail : List Char) : classLoop? verbose fuel' stack items (cs ++ tail) = some (node, rest ++ tail) := by
  induction fuel generalizing fuel' stack items cs with
  | zero => cases h
  | succ fuel ih =>
    obtain ⟨fuel', rfl⟩ : ∃ n, fuel' = n + 1 := ⟨fuel' - 1, by omega⟩
    rw [classLoop?_succ_eq_some_iff]
    rcases classLoop?_succ_eq_some_iff.mp h with
      ⟨set, outer, negated, hskip, hclose, rfl⟩ | ⟨_, _, after, hturn, h⟩
    · exact Or.inl ⟨set, outer, negated, skip_append hskip tail, hclose, rfl⟩
    · -- the class still has to be closed
      have hbracket : ']' ∈ after := ((classLoop?_bracket h).trans skip_suffix).subset List.mem_cons_self
      cases hskip : skip verbose cs with
      | nil =>
        rw [hskip] at hturn
        cases hturn
      | cons c start =>
        rw [hskip] at hturn
        rw [skip_append hskip tail]
        exact Or.inr ⟨_, _, _, hturn.append hbracket tail, ih (Nat.le_of_succ_le_succ hfuel) h⟩

end Loop

theorem bracketed?_append {node : Node} (h : bracketed? verbose cs = some (node, rest)) (tail : List Char) :
    bracketed? verbose (cs ++ tail) = some (node, rest ++ tail) := by
  obtain ⟨⟨negated, items, after⟩, hopen, h⟩ := Option.bind_eq_some_iff.mp h
  have hfuel : cs.length + 1 ≤ (cs ++ tail).length + 1 := by simp
  simp only [bracketed?, openClass?_append hopen tail, Option.bind_eq_bind, Option.bind_some]
  exact classLoop?_append hfuel h tail

end Classes

/-! ## Openings -/

section Openings

variable {change change' : FlagChange} {negated pending isGroup : Bool}

theorem flags?_append (h : flags? change negated pending cs = some (change', isGroup, rest)) (tail : List Char) :
    flags? change negated pending (cs ++ tail) = some (change', isGroup, rest ++ tail) := by
  induction cs generalizing change negated pending with
  | nil => cases h
  | cons c cs ih =>
    rw [List.cons_append]
    unfold flags? at h ⊢
    split_ifs at h ⊢
    · cases h
      rfl
    · exact ih h
    all_goals
      obtain ⟨flag, hflag, h⟩ := Option.bind_eq_some_iff.mp h
      rw [hflag]
      simp only [Option.bind_eq_bind, Option.bind_some]
      split_ifs at h ⊢
      exact ih h

theorem groupName?_append {name : String} (h : groupName? cs = some (name, rest)) (tail : List Char) :
    groupName? (cs ++ tail) = some (name, rest ++ tail) := by
  unfold groupName? at h ⊢
  split at h
  · rename_i c start after hspan
    split_ifs at h with hname
    cases h
    rw [List.span_eq_takeWhile_dropWhile] at hspan
    obtain ⟨htake, hdrop⟩ := Prod.mk.inj hspan
    rw [span_of_dropWhile hdrop tail, htake]
    simp only
    rw [if_pos hname]
  · cases h

theorem Opening.Read.append {opening : Opening} (h : opening.Read (c :: cs) rest) (tail : List Char) :
    opening.Read (c :: (cs ++ tail)) (rest ++ tail) := by
  generalize hstart : c :: cs = start at h
  cases h with
  | named hname =>
    obtain ⟨rfl, rfl⟩ := List.cons.inj hstart
    exact .named (groupName?_append hname tail)
  | @angled inner _ _ hequal hbang hname =>
    obtain ⟨rfl, rfl⟩ := List.cons.inj hstart
    cases inner with
    | nil => cases hname
    | cons d inner =>
      have hne {e : Char} (hd : ∀ more, d :: inner ≠ e :: more) (more : List Char) :
          d :: (inner ++ tail) ≠ e :: more :=
        fun heq => hd inner (by rw [(List.cons.inj heq).1])
      exact .angled (hne hequal) (hne hbang) (groupName?_append hname tail)
  | group hflags =>
    obtain ⟨rfl, rfl⟩ := List.cons.inj hstart
    exact .group (flags?_append hflags tail)
  | flags hflags hempty =>
    obtain ⟨rfl, rfl⟩ := List.cons.inj hstart
    exact .flags (flags?_append hflags tail) hempty
  | capture hquestion =>
    subst hstart
    exact .capture fun more heq => hquestion cs (by rw [(List.cons.inj heq).1])

/-- An opening is read on in the same way, or it is a capture in front of a comment. -/
theorem opening?_append {opening : Opening} (h : opening? verbose cs = some (opening, rest)) :
    ReadsOn (opening? verbose) cs opening rest := by
  cases hskip : skip verbose cs with
  | nil =>
    unfold opening? at h
    rw [hskip] at h
    cases h
    -- nothing but the parenthesis is left: a capture, if no comment takes what follows
    rcases skip_nil_append hskip with hclose | ⟨hsign, hline⟩
    · refine Or.inl fun tail hstop => ?_
      obtain ⟨more, rfl⟩ := hstop.exists_cons
      unfold opening?
      rw [hclose]
      rfl
    · refine Or.inr ⟨rfl, hsign, fun line hl => ?_⟩
      unfold opening?
      rw [hline line hl]
  | cons c start =>
    have hread := opening?_eq_some_iff.mp h
    rw [hskip] at hread
    refine Or.inl fun tail _ => ?_
    rw [opening?_eq_some_iff, skip_append hskip tail]
    exact hread.append tail

end Openings

/-! ## Repetitions -/

section Repetitions

variable {min : Nat} {max : Option Nat}

theorem dropLazy_append (hstop : Stops (dropLazy cs) tail) : dropLazy (cs ++ tail) = dropLazy cs ++ tail := by
  cases cs with
  | nil =>
    obtain ⟨more, rfl⟩ := hstop.exists_cons
    rfl
  | cons c cs =>
    by_cases hc : c = '?'
    · subst hc
      rfl
    · have hkeep : ∀ l, dropLazy (c :: l) = c :: l := by
        intro l
        simp [dropLazy, hc]
      rw [List.cons_append, hkeep, hkeep]
      rfl

theorem BoundsRead.append {least : Nat} (h : BoundsRead verbose least cs min max rest) (tail : List Char) :
    BoundsRead verbose least (cs ++ tail) min max (rest ++ tail) := by
  cases h with
  | exactly => exact .exactly
  | atLeast hskip => exact .atLeast (skip_append hskip tail)
  | @between inner _ _ hmost hle =>
    cases hskip : skip verbose inner with
    | nil =>
      rw [hskip] at hmost
      cases verbose <;> cases hmost
    | cons c start =>
      rw [hskip] at hmost
      have hmost := decimal?_append hmost tail
      rw [List.cons_append, ← skip_append hskip tail] at hmost
      exact .between hmost hle

theorem bounds?_append (h : bounds? verbose cs = some (min, max, rest)) (tail : List Char) :
    bounds? verbose (cs ++ tail) = some (min, max, rest ++ tail) := by
  rw [bounds?_eq_bind] at h ⊢
  obtain ⟨⟨least, after⟩, hleast, h⟩ := Option.bind_eq_some_iff.mp h
  cases after with
  | nil => cases h
  | cons c after =>
    cases hskip : skip verbose cs with
    | nil =>
      rw [hskip] at hleast
      cases verbose <;> cases hleast
    | cons d start =>
      rw [hskip] at hleast
      have hleast := decimal?_append hleast tail
      rw [List.cons_append] at hleast
      rw [skip_append hskip tail, hleast]
      exact boundsFrom?_eq_some_iff.mpr ((boundsFrom?_eq_some_iff.mp h).append tail)

/-- A repetition with bounds is read on in the same way, or it stands in front of a comment. -/
theorem token?_brace_append {token : Token} (h : token? verbose '\x7b' cs = some (token, rest)) :
    ReadsOn (token? verbose '\x7b') cs token rest := by
  obtain ⟨⟨min, max, after⟩, hbounds, heq⟩ := Option.map_eq_some_iff.mp h
  cases heq
  -- the bounds end with a brace; only what is passed over behind it can run on
  have hread : ∀ l, token? verbose '\x7b' (cs ++ l) =
      some (.repetition min max, dropLazy (skip verbose (after ++ l))) := by
    intro l
    show Option.map _ (bounds? verbose (cs ++ l)) = _
    rw [bounds?_append hbounds]
    rfl
  cases hskip : skip verbose after with
  | nil =>
    rcases skip_nil_append hskip with hclose | ⟨hsign, hline⟩
    · refine Or.inl fun tail hstop => ?_
      obtain ⟨more, rfl⟩ := hstop.exists_cons
      rw [hread, hclose]
      rfl
    · refine Or.inr ⟨rfl, hsign.of_suffix (bounds?_suffix hbounds), fun line hl => ?_⟩
      rw [hread, hline line hl]
      rfl
  | cons d start =>
    refine Or.inl fun tail hstop => ?_
    rw [hread, skip_append hskip tail, ← List.cons_append, dropLazy_append hstop]

end Repetitions

/-! ## Tokens -/

/-- **A token is read in the same way with more text behind it**, or a comment at its end takes the rest of the
line. -/
theorem token?_append {token : Token} (h : token? verbose c cs = some (token, rest)) :
    ReadsOn (token? verbose c) cs token rest := by
  cases token?_eq_some_iff.mp h with
  | opening hopening =>
    exact (opening?_append hopening).lift fun l after hl => token?_eq_some_iff.mpr (.opening hl)
  | bounds _ => exact token?_brace_append h
  -- no other token looks past its end
  | close => exact Or.inl fun tail _ => token?_eq_some_iff.mpr .close
  | branch => exact Or.inl fun tail _ => token?_eq_some_iff.mpr .branch
  | bracketed hnode =>
    exact Or.inl fun tail _ => token?_eq_some_iff.mpr (.bracketed (bracketed?_append hnode tail))
  | sign hsign =>
    refine Or.inl fun tail hstop => token?_eq_some_iff.mpr ?_
    rw [← dropLazy_append hstop]
    exact .sign hsign
  | escape hescape =>
    exact Or.inl fun tail hstop => token?_eq_some_iff.mpr (.escape (escape?_append hstop hescape))
  | plain hplain => exact Or.inl fun tail _ => token?_eq_some_iff.mpr (.plain hplain)

end AccessDecision.Pattern
