import AccessDecision.Datum.Json.Reader
import AccessDecision.Proofs.Datum.Json.Cutting

/-!
# Reading written trees

A plain tree that is not nested too deeply is read back from each of its written forms (`read?_chars`).  The
machine puts the tree of its tokens where a value is expected, whatever is open around it (`foldlM_tokensOf`).

Whatever is read is not nested too deeply (`depth_le_of_read?`), because a list or an object that is closed too
deep inside of others is lost.
-/

namespace AccessDecision.Datum.Json

variable {stack rest : List Frame} {m m' : Machine} {d value : Datum} {token : Token} {tokens : List Token}

/-! ## Steps of the machine -/

section Steps

variable {expect : Expect}

theorem foldlM_one (m : Machine) (token : Token) : [token].foldlM Machine.step m = m.step token := by
  rw [List.foldlM_cons]
  cases m.step token <;> rfl

theorem foldlM_cons_of_step (h : m.step token = some m') (tokens : List Token) :
    (token :: tokens).foldlM Machine.step m = tokens.foldlM Machine.step m' := by
  rw [List.foldlM_cons, h]
  rfl

theorem foldlM_append_of_run (h : tokens.foldlM Machine.step m = some m') (tokens' : List Token) :
    (tokens ++ tokens').foldlM Machine.step m = tokens'.foldlM Machine.step m' := by
  rw [List.foldlM_append, h]
  rfl

theorem step_listOpen (h : expect = .value ∨ expect = .firstItem) :
    Machine.step ⟨stack, expect, none⟩ .listOpen = some ⟨.list [] :: stack, .firstItem, none⟩ := by
  rcases h with rfl | rfl <;> rfl

theorem step_objectOpen (h : expect = .value ∨ expect = .firstItem) :
    Machine.step ⟨stack, expect, none⟩ .objectOpen = some ⟨.object [] true :: stack, .firstName, none⟩ := by
  rcases h with rfl | rfl <;> rfl

theorem drop_eq_nil_iff_lt : stack.drop (maxDepth - 1) = [] ↔ stack.length < maxDepth := by
  rw [List.drop_eq_nil_iff]
  unfold maxDepth
  omega

/-- A list that is not too deep is kept when it is closed. -/
theorem close_list (items : List Datum) (h : stack.length < maxDepth) :
    (Frame.list items).close stack = .list items.reverse := by
  unfold Frame.close
  rw [drop_eq_nil_iff_lt.mpr h]
  rfl

/-- An object that is not too deep is kept when it is closed. -/
theorem close_object (members : List (String × Datum)) (h : stack.length < maxDepth) :
    (Frame.object members true).close stack = .object members.reverse := by
  unfold Frame.close
  rw [drop_eq_nil_iff_lt.mpr h]
  rfl

end Steps

/-! ## Trees from their tokens -/

mutual

/-- **The tokens of a tree put the tree where a value is expected.** -/
theorem foldlM_tokensOf (d : Datum) (stack : List Frame) {expect : Expect}
    (hexpect : expect = .value ∨ expect = .firstItem) (hdepth : stack.length + d.depth ≤ maxDepth) :
    (tokensOf d).foldlM Machine.step ⟨stack, expect, none⟩ = Machine.push stack d := by
  match d with
  | .text s =>
    rw [tokensOf, foldlM_one]
    -- a value may stand where one is due and where a list begins
    rcases hexpect with rfl | rfl <;> rfl
  | .list [] =>
    have hlt : stack.length < maxDepth := hdepth
    rw [tokensOf, foldlM_cons_of_step (step_listOpen hexpect), foldlM_one]
    show Machine.push stack ((Frame.list []).close stack) = _
    rw [close_list [] hlt]
    rfl
  | .list (item :: rest) =>
    have hdepth : stack.length + (max item.depth (itemsDepth rest) + 1) ≤ maxDepth := hdepth
    -- the open list counts as one level, which the depth of the list pays for
    have hitem := foldlM_tokensOf item (.list [] :: stack) (Or.inr rfl) (by rw [List.length_cons]; omega)
    have hrest := foldlM_itemsTokens rest [item] stack (by omega)
    rw [tokensOf, foldlM_cons_of_step (step_listOpen hexpect), List.append_assoc, foldlM_append_of_run hitem,
      foldlM_append_of_run hrest, foldlM_one]
    show Machine.push stack ((Frame.list (rest.reverse ++ [item])).close stack) = _
    rw [close_list _ (by omega), List.reverse_append, List.reverse_reverse]
    rfl
  | .object [] =>
    have hlt : stack.length < maxDepth := hdepth
    rw [tokensOf, foldlM_cons_of_step (step_objectOpen hexpect), foldlM_one]
    show Machine.push stack ((Frame.object [] true).close stack) = _
    rw [close_object [] hlt]
    rfl
  | .object ((name, value) :: rest) =>
    have hdepth : stack.length + (max value.depth (membersDepth rest) + 1) ≤ maxDepth := hdepth
    have hname : Machine.step ⟨.object [] true :: stack, .firstName, none⟩ (.text (some name)) =
      some ⟨.member [] true name :: stack, .colon, none⟩ := rfl
    have hcolon : Machine.step ⟨.member [] true name :: stack, .colon, none⟩ .colon =
      some ⟨.member [] true name :: stack, .value, none⟩ := rfl
    have hvalue := foldlM_tokensOf value (.member [] true name :: stack) (Or.inl rfl)
      (by rw [List.length_cons]; omega)
    have hrest := foldlM_membersTokens rest [(name, value)] stack (by omega)
    rw [tokensOf, foldlM_cons_of_step (step_objectOpen hexpect), foldlM_cons_of_step hname,
      foldlM_cons_of_step hcolon, List.append_assoc, foldlM_append_of_run hvalue,
      foldlM_append_of_run hrest, foldlM_one]
    show Machine.push stack ((Frame.object (rest.reverse ++ [(name, value)]) true).close stack) = _
    rw [close_object _ (by omega), List.reverse_append, List.reverse_reverse]
    rfl
  | .null | .bool _ | .natural _ | .number | .unreadable =>
    rw [tokensOf, foldlM_one]
    · rcases hexpect with rfl | rfl <;> rfl
    all_goals simp

theorem foldlM_itemsTokens (items before : List Datum) (stack : List Frame)
    (hdepth : stack.length + 1 + itemsDepth items ≤ maxDepth) :
    (itemsTokens items).foldlM Machine.step ⟨.list before :: stack, .separator, none⟩ =
      some ⟨.list (items.reverse ++ before) :: stack, .separator, none⟩ := by
  match items with
  | [] => rfl
  | item :: rest =>
    have hdepth : stack.length + 1 + max item.depth (itemsDepth rest) ≤ maxDepth := hdepth
    have hcomma : Machine.step ⟨.list before :: stack, .separator, none⟩ .comma =
      some ⟨.list before :: stack, .value, none⟩ := rfl
    have hitem := foldlM_tokensOf item (.list before :: stack) (Or.inl rfl) (by rw [List.length_cons]; omega)
    have hrest := foldlM_itemsTokens rest (item :: before) stack (by omega)
    rw [itemsTokens, foldlM_cons_of_step hcomma, foldlM_append_of_run hitem, hrest, List.reverse_cons,
      List.append_assoc]
    rfl

theorem foldlM_membersTokens (members before : List (String × Datum)) (stack : List Frame)
    (hdepth : stack.length + 1 + membersDepth members ≤ maxDepth) :
    (membersTokens members).foldlM Machine.step ⟨.object before true :: stack, .separator, none⟩ =
      some ⟨.object (members.reverse ++ before) true :: stack, .separator, none⟩ := by
  match members with
  | [] => rfl
  | (name, value) :: rest =>
    have hdepth : stack.length + 1 + max value.depth (membersDepth rest) ≤ maxDepth := hdepth
    have hcomma : Machine.step ⟨.object before true :: stack, .separator, none⟩ .comma =
      some ⟨.object before true :: stack, .name, none⟩ := rfl
    have hname : Machine.step ⟨.object before true :: stack, .name, none⟩ (.text (some name)) =
      some ⟨.member before true name :: stack, .colon, none⟩ := rfl
    have hcolon : Machine.step ⟨.member before true name :: stack, .colon, none⟩ .colon =
      some ⟨.member before true name :: stack, .value, none⟩ := rfl
    have hvalue := foldlM_tokensOf value (.member before true name :: stack) (Or.inl rfl)
      (by rw [List.length_cons]; omega)
    have hrest := foldlM_membersTokens rest ((name, value) :: before) stack (by omega)
    rw [membersTokens, foldlM_cons_of_step hcomma, foldlM_cons_of_step hname, foldlM_cons_of_step hcolon,
      foldlM_append_of_run hvalue, hrest, List.reverse_cons, List.append_assoc]
    rfl

end

theorem ofTokens?_tokensOf (hdepth : d.depth ≤ maxDepth) : ofTokens? (tokensOf d) = some d := by
  have hrun : (tokensOf d).foldlM Machine.step Machine.start = Machine.push [] d :=
    foldlM_tokensOf d [] (Or.inl rfl) (by rw [List.length_nil, Nat.zero_add]; exact hdepth)
  unfold ofTokens?
  rw [hrun]
  rfl

/-- **A plain tree that is not nested too deeply is read back from what is written**, also with white space behind
it. -/
theorem read?_chars {layout : Layout} (hlayout : layout.IsBlank) (hplain : d.isPlain = true)
    (hdepth : d.depth ≤ maxDepth) (after : List Char) (hafter : after.all isSpace = true) :
    read? (String.ofList (chars layout 0 d ++ after)) = some d := by
  unfold read?
  rw [String.toList_ofList, tokens?_chars hlayout 0 hplain after hafter, Option.bind_some,
    ofTokens?_tokensOf hdepth]

theorem read?_compact (hplain : d.isPlain = true) (hdepth : d.depth ≤ maxDepth) : read? (compact d) = some d := by
  have hread := read?_chars Layout.isBlank_compact hplain hdepth [] rfl
  rwa [List.append_nil] at hread

theorem read?_pretty (hplain : d.isPlain = true) (hdepth : d.depth ≤ maxDepth) : read? (pretty d) = some d := by
  have hread := read?_chars Layout.isBlank_pretty hplain hdepth [] rfl
  rwa [List.append_nil] at hread

theorem read?_pretty_line (hplain : d.isPlain = true) (hdepth : d.depth ≤ maxDepth) :
    read? (pretty d ++ "\n") = some d := by
  have hread := read?_chars Layout.isBlank_pretty hplain hdepth ['\n'] rfl
  rwa [String.ofList_append] at hread

/-! ## The depth of what is read -/

section Depth

/-- What holds before a fold and is kept by each of its steps holds after it. -/
theorem foldlM_keeps {α β : Type} {f : β → α → Option β} {P : β → Prop} {xs : List α} {b b' : β}
    (hstep : ∀ x ∈ xs, ∀ b b', P b → f b x = some b' → P b') (hb : P b) (h : xs.foldlM f b = some b') : P b' := by
  induction xs generalizing b with
  | nil =>
    obtain rfl := Option.some.inj h
    exact hb
  | cons x xs ih =>
    rw [List.foldlM_cons] at h
    obtain ⟨b₁, hfirst, hrest⟩ := Option.bind_eq_some_iff.mp h
    have hb₁ := hstep x List.mem_cons_self b b₁ hb hfirst
    exact ih (fun x hx => hstep x (List.mem_cons_of_mem _ hx)) hb₁ hrest

/-- A token that is a value is not a list and not an object. -/
def Token.IsFlat : Token → Prop
  | .scalar value => value.depth = 0
  | _ => True

theorem depth_of_word? {cs : List Char} (h : word? cs = some d) : d.depth = 0 := by
  unfold word? at h
  split_ifs at h
  · cases h
    rfl
  · cases h
    rfl
  · cases h
    rfl
  · obtain ⟨n, -, rfl⟩ := Option.map_eq_some_iff.mp h
    unfold Numeral.value
    split_ifs <;> rfl

theorem isFlat_of_wordToken? {seen : List Char} (h : wordToken? seen = some token) : token.IsFlat := by
  obtain ⟨value, hword, rfl⟩ := Option.map_eq_some_iff.mp h
  exact depth_of_word? hword

theorem isFlat_of_begin {state : Lexer} {c : Char} (h : Lexer.begin tokens c = some state)
    (hflat : ∀ token ∈ tokens, token.IsFlat) : ∀ token ∈ state.tokens, token.IsFlat := by
  -- what begins here adds a sign at most, and signs are flat
  have hcons : ∀ token : Token, token.IsFlat → ∀ t ∈ token :: tokens, t.IsFlat := by
    intro token htoken t ht
    rcases List.mem_cons.mp ht with rfl | ht
    · exact htoken
    · exact hflat t ht
  unfold Lexer.begin at h
  by_cases hspace : isSpace c = true
  · rw [if_pos hspace] at h
    cases h
    exact hflat
  rw [if_neg hspace] at h
  split at h
  case h_7 =>
    cases h
    exact hflat
  case h_8 =>
    split_ifs at h
    cases h
    exact hflat
  all_goals
    cases h
    exact hcons _ trivial

theorem isFlat_of_step {state state' : Lexer} {c : Char} (hflat : ∀ token ∈ state.tokens, token.IsFlat)
    (h : state.step c = some state') : ∀ token ∈ state'.tokens, token.IsFlat := by
  unfold Lexer.step at h
  split at h
  · -- between tokens
    exact isFlat_of_begin h hflat
  · -- in a word, which goes on or ends in front of this character
    split_ifs at h
    · cases h
      exact hflat
    · obtain ⟨token, htoken, h⟩ := Option.bind_eq_some_iff.mp h
      exact isFlat_of_begin h (List.forall_mem_cons.mpr ⟨isFlat_of_wordToken? htoken, hflat⟩)
  · -- in a text, which ends, goes on or comes to an escape
    split_ifs at h
    all_goals cases h
    · exact List.forall_mem_cons.mpr ⟨trivial, hflat⟩
    · exact hflat
    · exact hflat
  · -- behind a backslash
    split_ifs at h
    · cases h
      exact hflat
    · obtain ⟨e, -, rfl⟩ := Option.map_eq_some_iff.mp h
      exact hflat
  · -- among the digits of an escape
    obtain ⟨digit, -, rfl⟩ := Option.map_eq_some_iff.mp h
    split_ifs <;> exact hflat

theorem isFlat_of_tokens? {cs : List Char} (h : tokens? cs = some tokens) : ∀ token ∈ tokens, token.IsFlat := by
  obtain ⟨state, hrun, hfinish⟩ := Option.bind_eq_some_iff.mp h
  have hstate : ∀ token ∈ state.tokens, token.IsFlat :=
    foldlM_keeps (fun c _ s s' hs hstep => isFlat_of_step hs hstep) (fun _ h => absurd h List.not_mem_nil) hrun
  unfold Lexer.finish at hfinish
  split at hfinish
  · cases hfinish
    exact fun token htoken => hstate token (List.mem_reverse.mp htoken)
  · obtain ⟨last, hlast, rfl⟩ := Option.map_eq_some_iff.mp hfinish
    intro token htoken
    exact List.forall_mem_cons.mpr ⟨isFlat_of_wordToken? hlast, hstate⟩ token (List.mem_reverse.mp htoken)
  · cases hfinish

/-- The values that an open list or object holds so far. -/
def Frame.values : Frame → List Datum
  | .list items => items
  | .object members _ | .member members _ _ => members.map (·.2)

/-- Whatever is held inside of open lists and objects leaves room for them. -/
def LeavesRoom : List Frame → Prop
  | [] => True
  | frame :: outer => (∀ value ∈ frame.values, value.depth ≤ maxDepth - (outer.length + 1)) ∧ LeavesRoom outer

/-- Nothing that a machine holds is nested too deeply. -/
structure Machine.IsShallow (m : Machine) : Prop where
  stack : LeavesRoom m.stack
  result : ∀ d, m.result = some d → d.depth ≤ maxDepth

theorem isShallow_of_push (hstack : LeavesRoom stack) (hvalue : value.depth ≤ maxDepth - stack.length)
    (h : Machine.push stack value = some m) : m.IsShallow := by
  unfold Machine.push at h
  split at h
  · cases h
    refine ⟨trivial, fun d hd => ?_⟩
    obtain rfl := Option.some.inj hd
    exact hvalue
  · cases h
    exact ⟨⟨List.forall_mem_cons.mpr ⟨hvalue, hstack.1⟩, hstack.2⟩, fun d hd => nomatch hd⟩
  · cases h
    exact ⟨⟨List.forall_mem_cons.mpr ⟨hvalue, hstack.1⟩, hstack.2⟩, fun d hd => nomatch hd⟩
  · cases h

theorem depth_close_le (frame : Frame) (hstack : LeavesRoom (frame :: stack)) :
    (frame.close stack).depth ≤ maxDepth - stack.length := by
  unfold Frame.close
  split_ifs with hdeep
  · exact Nat.zero_le _
  · have hlt : stack.length < maxDepth := drop_eq_nil_iff_lt.mp (by simpa using hdeep)
    -- the level that closes makes up for the one that its value adds
    have hroom : maxDepth - stack.length = maxDepth - (stack.length + 1) + 1 := by omega
    rw [hroom]
    split
    · rw [depth_list_le]
      exact fun item hitem => hstack.1 item (List.mem_reverse.mp hitem)
    · split_ifs
      · rw [depth_object_le]
        intro member hmember
        exact hstack.1 member.2 (List.mem_map_of_mem (List.mem_reverse.mp hmember))
      · exact Nat.zero_le _
    · exact Nat.zero_le _

/-- What a step does to the open lists and objects. -/
inductive Changes (token : Token) (stack : List Frame) (m' : Machine) : Prop where
  /-- It puts a value without parts. -/
  | puts (value : Datum) :
    (token.IsFlat → value.depth = 0) → Machine.push stack value = some m' → Changes token stack m'
  /-- It opens a list or an object. -/
  | opens (frame : Frame) (expect : Expect) : frame.values = [] → m' = ⟨frame :: stack, expect, none⟩ →
    Changes token stack m'
  /-- It closes the innermost one. -/
  | closes (frame : Frame) (outer : List Frame) : stack = frame :: outer →
    Machine.push outer (frame.close outer) = some m' → Changes token stack m'
  /-- It reads on in the innermost one, which holds the same values. -/
  | readsOn (frame frame' : Frame) (outer : List Frame) (expect : Expect) : stack = frame :: outer →
    m' = ⟨frame' :: outer, expect, none⟩ → frame'.values = frame.values → Changes token stack m'
  /-- It passes a colon. -/
  | passes (expect : Expect) : m' = ⟨stack, expect, none⟩ → Changes token stack m'

theorem changes_of_step (h : m.step token = some m') : Changes token m.stack m' := by
  unfold Machine.step at h
  split at h
  -- the cases of the step by what they do: close, put, open, read on or pass a colon
  case h_1 hstack | h_10 hstack | h_16 hstack | h_17 hstack => exact .closes _ _ hstack h
  case h_2 value _ | h_3 value _ => exact .puts value id h
  case h_4 value _ | h_5 value _ => exact .puts _ (fun _ => by cases value <;> rfl) h
  case h_6 | h_7 | h_8 | h_9 =>
    cases h
    exact .opens _ _ rfl rfl
  case h_11 hstack | h_12 hstack | h_14 hstack | h_15 hstack =>
    cases h
    exact .readsOn _ _ _ _ hstack rfl rfl
  case h_13 =>
    cases h
    exact .passes _ rfl
  case h_18 => cases h

/-- **A step leaves room for what is still open.** -/
theorem isShallow_of_step (htoken : token.IsFlat) (hm : m.IsShallow) (h : m.step token = some m') :
    m'.IsShallow := by
  have hstack := hm.stack
  have hnone : ∀ d, (none : Option Datum) = some d → d.depth ≤ maxDepth := fun d hd => nomatch hd
  cases changes_of_step h with
  | puts value hflat hpush =>
    exact isShallow_of_push hstack (by rw [hflat htoken]; exact Nat.zero_le _) hpush
  | opens frame expect hempty heq =>
    subst heq
    refine ⟨⟨fun value hvalue => ?_, hstack⟩, hnone⟩
    rw [hempty] at hvalue
    exact absurd hvalue List.not_mem_nil
  | closes frame outer heq hpush =>
    rw [heq] at hstack
    exact isShallow_of_push hstack.2 (depth_close_le frame hstack) hpush
  | readsOn frame frame' outer expect heq heq' hvalues =>
    subst heq'
    rw [heq] at hstack
    exact ⟨⟨fun value hvalue => hstack.1 value (hvalues ▸ hvalue), hstack.2⟩, hnone⟩
  | passes expect heq =>
    subst heq
    exact ⟨hstack, hnone⟩

/-- **Whatever is read is not nested too deeply.** -/
theorem depth_le_of_read? {text : String} (h : read? text = some d) : d.depth ≤ maxDepth := by
  obtain ⟨tokens, htokens, h⟩ := Option.bind_eq_some_iff.mp h
  obtain ⟨m, hrun, hresult⟩ := Option.bind_eq_some_iff.mp h
  have hflat := isFlat_of_tokens? htokens
  have hstart : Machine.start.IsShallow := ⟨trivial, fun d hd => nomatch hd⟩
  have hm : m.IsShallow :=
    foldlM_keeps (fun token htoken m m' hm hstep => isShallow_of_step (hflat token htoken) hm hstep) hstart hrun
  exact hm.result d hresult

end Depth

end AccessDecision.Datum.Json
