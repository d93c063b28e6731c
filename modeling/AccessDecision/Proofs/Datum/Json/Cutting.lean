import AccessDecision.Datum.Json.Token
import AccessDecision.Datum.Json.Writer
import AccessDecision.Proofs.Datum.Plain
import Mathlib.Tactic.SplitIfs

/-!
# Cutting written trees

A plain tree is written as the characters of its tokens (`cuts_chars`), in any layout that puts nothing but white
space between them.  Between two tokens of a plain tree nothing is left open, so the tokens of the parts follow
each other (`Cuts.append`).  Inside a text every escape stands for the one character that was escaped
(`foldlM_escapeChar`).
-/

namespace AccessDecision.Datum.Json

/-! ## Tokens of trees -/

mutual

/-- The tokens that spell a tree. -/
def tokensOf : Datum → List Token
  | .text s => [.text (some s)]
  | .list [] => [.listOpen, .listClose]
  | .list (item :: rest) => .listOpen :: (tokensOf item ++ itemsTokens rest ++ [.listClose])
  | .object [] => [.objectOpen, .objectClose]
  | .object ((name, value) :: rest) =>
    .objectOpen :: .text (some name) :: .colon :: (tokensOf value ++ membersTokens rest ++ [.objectClose])
  | other => [.scalar other]

/-- The tokens that spell the items after the first one. -/
def itemsTokens : List Datum → List Token
  | [] => []
  | item :: rest => .comma :: (tokensOf item ++ itemsTokens rest)

/-- The tokens that spell the members after the first one. -/
def membersTokens : List (String × Datum) → List Token
  | [] => []
  | (name, value) :: rest => .comma :: .text (some name) :: .colon :: (tokensOf value ++ membersTokens rest)

end

/-- Characters between tokens are cut into these tokens, and nothing is left open. -/
def Cuts (cs : List Char) (tokens : List Token) : Prop :=
  ∀ before, cs.foldlM Lexer.step ⟨.between, before⟩ = some ⟨.between, tokens.reverse ++ before⟩

/-- A layout that puts nothing but white space between tokens. -/
structure Layout.IsBlank (layout : Layout) : Prop where
  lineBreak : ∀ level, (layout.lineBreak level).all isSpace = true
  afterColon : layout.afterColon.all isSpace = true

theorem Layout.isBlank_compact : Layout.compact.IsBlank := ⟨fun _ => rfl, rfl⟩

theorem Layout.isBlank_pretty : Layout.pretty.IsBlank := by
  refine ⟨fun level => ?_, rfl⟩
  simp [Layout.pretty, isSpace]

variable {cs cs' : List Char} {ts ts' : List Token}

theorem Cuts.append (h : Cuts cs ts) (h' : Cuts cs' ts') : Cuts (cs ++ cs') (ts ++ ts') := by
  intro before
  rw [List.foldlM_append, h before, List.reverse_append, List.append_assoc]
  exact h' (ts.reverse ++ before)

theorem Cuts.nil : Cuts [] [] := fun _ => rfl

theorem Cuts.blank (h : cs.all isSpace = true) : Cuts cs [] := by
  intro before
  induction cs with
  | nil => rfl
  | cons c cs ih =>
    rw [List.all_cons, Bool.and_eq_true] at h
    have hstep : Lexer.step ⟨.between, before⟩ c = some ⟨.between, before⟩ := by
      show Lexer.begin before c = _
      unfold Lexer.begin
      rw [if_pos h.1]
    rw [List.foldlM_cons, hstep]
    exact ih h.2

theorem Cuts.listOpen : Cuts ['['] [.listOpen] := fun _ => rfl

theorem Cuts.listClose : Cuts [']'] [.listClose] := fun _ => rfl

theorem Cuts.objectOpen : Cuts ['\x7b'] [.objectOpen] := fun _ => rfl

theorem Cuts.objectClose : Cuts ['\x7d'] [.objectClose] := fun _ => rfl

theorem Cuts.comma : Cuts [','] [.comma] := fun _ => rfl

theorem Cuts.colon : Cuts [':'] [.colon] := fun _ => rfl

/-! ## Texts -/

section Texts

variable {before : List Token} {seen : List Piece}

theorem hexValue?_hexDigit {n : Nat} (h : n < 16) : hexValue? (hexDigit n) = some n := by
  have hall : ∀ n : Fin 16, hexValue? (hexDigit n) = some n.val := by decide
  exact hall ⟨n, h⟩

/-- A control character is named by four digits. -/
theorem foldlM_control {n : Nat} (h : n < 0x20) :
    ['\\', 'u', '0', '0', hexDigit (n / 16), hexDigit (n % 16)].foldlM Lexer.step ⟨.text seen, before⟩ =
      some ⟨.text (.char (Char.ofNat n) :: seen), before⟩ := by
  have hhigh := hexValue?_hexDigit (show n / 16 < 16 by omega)
  have hlow := hexValue?_hexDigit (show n % 16 < 16 by omega)
  have hprefix : ['\\', 'u', '0', '0'].foldlM Lexer.step ⟨.text seen, before⟩ = some ⟨.hex seen 0 2, before⟩ := rfl
  have hfirst : Lexer.step ⟨.hex seen 0 2, before⟩ (hexDigit (n / 16)) = some ⟨.hex seen (n / 16) 1, before⟩ := by
    simp [Lexer.step, hhigh]
  have hsecond : Lexer.step ⟨.hex seen (n / 16) 1, before⟩ (hexDigit (n % 16)) =
      some ⟨.text (.ofUnit n :: seen), before⟩ := by
    simp [Lexer.step, hlow, Nat.div_add_mod]
  -- a control character is no half of a surrogate pair
  have hunit : Piece.ofUnit n = .char (Char.ofNat n) := by
    unfold Piece.ofUnit
    rw [if_neg (by omega)]
  rw [← hunit]
  show (['\\', 'u', '0', '0'] ++ [hexDigit (n / 16), hexDigit (n % 16)]).foldlM Lexer.step _ = _
  rw [List.foldlM_append, hprefix, Option.bind_eq_bind, Option.bind_some, List.foldlM_cons, hfirst,
    Option.bind_eq_bind, Option.bind_some, List.foldlM_cons, hsecond]
  rfl

/-- **Every written character is read as itself.** -/
theorem foldlM_escapeChar (c : Char) :
    (escapeChar c).foldlM Lexer.step ⟨.text seen, before⟩ = some ⟨.text (.char c :: seen), before⟩ := by
  unfold escapeChar
  split_ifs with hquote hbackslash hbackspace hfeed hline hreturn htab hcontrol
  · rw [hquote]
    rfl
  · rw [hbackslash]
    rfl
  · rw [hbackspace]
    rfl
  · rw [hfeed]
    rfl
  · rw [hline]
    rfl
  · rw [hreturn]
    rfl
  · rw [htab]
    rfl
  · rw [foldlM_control hcontrol, Char.ofNat_toNat]
  · -- every other character stands for itself
    have hstep : Lexer.step ⟨.text seen, before⟩ c = some ⟨.text (.char c :: seen), before⟩ := by
      simp only [Lexer.step]
      rw [if_neg hquote, if_neg hbackslash, if_neg hcontrol]
    rw [List.foldlM_cons, hstep]
    rfl

theorem foldlM_escaped (cs : List Char) :
    (cs.flatMap escapeChar).foldlM Lexer.step ⟨.text seen, before⟩ =
      some ⟨.text ((cs.map .char).reverse ++ seen), before⟩ := by
  induction cs generalizing seen with
  | nil => rfl
  | cons c cs ih =>
    rw [List.flatMap_cons, List.foldlM_append, foldlM_escapeChar, Option.bind_eq_bind, Option.bind_some, ih]
    simp

theorem join_chars (cs : List Char) : Piece.join (cs.map .char) = some cs := by
  induction cs with
  | nil => rfl
  | cons c cs ih => rw [List.map_cons, Piece.join, ih, Option.map_some]

theorem cuts_quoted (s : String) : Cuts (quoted s) [.text (some s)] := by
  intro before
  have hopen : Lexer.step ⟨.between, before⟩ '"' = some ⟨.text [], before⟩ := rfl
  unfold quoted
  rw [List.foldlM_cons, hopen, Option.bind_eq_bind, Option.bind_some, List.foldlM_append, foldlM_escaped,
    Option.bind_eq_bind, Option.bind_some, List.append_nil, List.foldlM_cons]
  have hclose : Lexer.step ⟨.text (s.toList.map .char).reverse, before⟩ '"' =
      some ⟨.between, .text (some s) :: before⟩ := by
    simp only [Lexer.step, List.reverse_reverse, join_chars, Option.map_some, String.ofList_toList]
    rfl
  rw [hclose]
  rfl

end Texts

/-! ## Trees -/

section Trees

variable {layout : Layout}

mutual

/-- **A plain tree is written as its tokens.** -/
theorem cuts_chars (hlayout : layout.IsBlank) (level : Nat) (d : Datum) (hplain : d.isPlain = true) :
    Cuts (chars layout level d) (tokensOf d) := by
  match d with
  | .text s => exact cuts_quoted s
  | .list [] => exact Cuts.listOpen.append Cuts.listClose
  | .list (item :: rest) =>
    have hall : (item.isPlain && itemsPlain rest) = true := hplain
    rw [Bool.and_eq_true] at hall
    have hitem := cuts_chars hlayout (level + 1) item hall.1
    have hrest := cuts_itemsChars hlayout (level + 1) rest hall.2
    -- between the brackets: a line break, the first item and the rest
    have hinner := ((Cuts.blank (hlayout.lineBreak (level + 1))).append hitem).append hrest
    have hclose := (Cuts.blank (hlayout.lineBreak level)).append Cuts.listClose
    have hwhole := Cuts.listOpen.append (hinner.append hclose)
    simpa [chars, tokensOf] using hwhole
  | .object [] => exact Cuts.objectOpen.append Cuts.objectClose
  | .object ((name, value) :: rest) =>
    have hall : (value.isPlain && membersPlain rest) = true := hplain
    rw [Bool.and_eq_true] at hall
    have hvalue := cuts_chars hlayout (level + 1) value hall.1
    have hrest := cuts_membersChars hlayout (level + 1) rest hall.2
    have hname := ((cuts_quoted name).append Cuts.colon).append (Cuts.blank hlayout.afterColon)
    have hinner := (((Cuts.blank (hlayout.lineBreak (level + 1))).append hname).append hvalue).append hrest
    have hclose := (Cuts.blank (hlayout.lineBreak level)).append Cuts.objectClose
    have hwhole := Cuts.objectOpen.append (hinner.append hclose)
    simpa [chars, tokensOf] using hwhole
  -- none of these is written
  | .null | .bool _ | .natural _ | .number | .unreadable => cases hplain

theorem cuts_itemsChars (hlayout : layout.IsBlank) (level : Nat) (items : List Datum)
    (hplain : itemsPlain items = true) : Cuts (itemsChars layout level items) (itemsTokens items) := by
  match items with
  | [] => exact Cuts.nil
  | item :: rest =>
    rw [itemsPlain, Bool.and_eq_true] at hplain
    have hitem := cuts_chars hlayout level item hplain.1
    have hrest := cuts_itemsChars hlayout level rest hplain.2
    have hwhole := Cuts.comma.append (((Cuts.blank (hlayout.lineBreak level)).append hitem).append hrest)
    simpa [itemsChars, itemsTokens] using hwhole

theorem cuts_membersChars (hlayout : layout.IsBlank) (level : Nat) (members : List (String × Datum))
    (hplain : membersPlain members = true) : Cuts (membersChars layout level members) (membersTokens members) := by
  match members with
  | [] => exact Cuts.nil
  | (name, value) :: rest =>
    rw [membersPlain, Bool.and_eq_true] at hplain
    have hvalue := cuts_chars hlayout level value hplain.1
    have hrest := cuts_membersChars hlayout level rest hplain.2
    have hname := ((cuts_quoted name).append Cuts.colon).append (Cuts.blank hlayout.afterColon)
    have hwhole :=
      Cuts.comma.append ((((Cuts.blank (hlayout.lineBreak level)).append hname).append hvalue).append hrest)
    simpa [membersChars, membersTokens] using hwhole

end

/-- White space behind a written tree adds no token. -/
theorem tokens?_chars (hlayout : layout.IsBlank) (level : Nat) {d : Datum} (hplain : d.isPlain = true)
    (after : List Char) (hafter : after.all isSpace = true) :
    tokens? (chars layout level d ++ after) = some (tokensOf d) := by
  have hcuts := (cuts_chars hlayout level d hplain).append (Cuts.blank hafter)
  unfold tokens?
  rw [hcuts, Option.bind_some, List.append_nil, List.append_nil]
  show some (tokensOf d).reverse.reverse = _
  rw [List.reverse_reverse]

end Trees

end AccessDecision.Datum.Json
