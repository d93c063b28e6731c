import AccessDecision.Pattern.Size
import AccessDecision.Proofs.Condition.Comparison
import AccessDecision.Proofs.Pattern.Valid

/-!
# Plain patterns

A pattern is plain if none of its characters can stand for something else (`IsPlain`).  The machine pushes such a
pattern character by character (`State.reaches_plain`), so inside the frame it becomes a row of literals, and the
regular expression of a row of literals matches one text only (`Regex.matches_literal`).  Hence a plain pattern
that does not take too much room matches by equality, as a target and as a listed value.
-/

namespace AccessDecision

namespace Pattern

open Text (CharSet)

/-! ## Definitions -/

/-- The characters that have a meaning of their own in a pattern. -/
def metacharacters : List Char := ['\\', '.', '+', '*', '?', '(', ')', '|', '[', ']', '\x7b', '\x7d', '^', '$']

/-- Every character of a pattern stands for itself. -/
def IsPlain (pattern : String) : Prop := ∀ c ∈ pattern.toList, c ∉ metacharacters

/-- A plain pattern takes a state for each byte and six states for the frame, the start and the match. -/
def FitsLimit (pattern : String) : Prop := stateSize * (pattern.utf8ByteSize + 6) ≤ sizeLimit

instance (pattern : String) : Decidable (IsPlain pattern) := List.decidableBAll (· ∉ metacharacters) pattern.toList

instance (pattern : String) : Decidable (FitsLimit pattern) := Nat.decLe _ _

/-- A character that stands for itself, as it is written. -/
def Node.char (c : Char) : Node := .literal ⟨c, false⟩

/-- The state after a plain text. -/
def State.plain (cs : List Char) : State := ⟨⟨(cs.map Node.char).reverse, []⟩, [], false, []⟩

variable {words : CharSet} {text cs : List Char} {c : Char} {i k : Nat} {pattern : String}

/-! ## Parsing -/

theorem State.step_plain (s : State) (hc : c ∉ metacharacters) (rest : List Char) :
    s.step c rest = some (s.push (.char c), rest) := by
  simp only [metacharacters, List.mem_cons, List.not_mem_nil, or_false, not_or] at hc
  simp only [State.step, hc, if_false, Node.char]

theorem State.plain_push (cs : List Char) (c : Char) : (State.plain cs).push (.char c) = .plain (cs ++ [c]) := by
  simp [State.plain, State.push, Level.push]

/-- The machine passes over a plain text and keeps each character of it. -/
theorem State.reaches_plain (hcs : ∀ c ∈ cs, c ∉ metacharacters) (before more : List Char) :
    (State.plain before).Reaches (cs ++ more) (.plain (before ++ cs)) more := by
  induction cs generalizing before with
  | nil =>
    rw [List.append_nil]
    exact .refl
  | cons c cs ih =>
    obtain ⟨hc, hcs⟩ := List.forall_mem_cons.mp hcs
    have hstep := State.step_plain (.plain before) hc (cs ++ more)
    rw [State.plain_push] at hstep
    have hrest := ih hcs (before ++ [c])
    rw [List.append_assoc] at hrest
    exact .step rfl hstep hrest

theorem parseTree?_anchor_of_isPlain (h : IsPlain pattern) :
    parseTree? (anchor pattern) = some (Node.ofParts (pattern.toList.map .char)).framed := by
  have hplain : State.start.Reaches (pattern.toList ++ closing) (.plain pattern.toList) closing :=
    State.reaches_plain h [] closing
  obtain ⟨v, hv, hstack, hnode⟩ := reaches_closing (u := .plain pattern.toList) rfl rfl
  have hreaches := (reaches_anchor pattern).trans ((hplain.inside State.frame).trans hv)
  rw [parseTree?_of_reaches hreaches (skip_nil _), hstack, hnode]
  simp [State.plain, Level.toNode, Node.ofBranches]

theorem Node.depthOf_chars (cs : List Char) : Node.depthOf (cs.map .char) = 0 := by
  induction cs with
  | nil => rfl
  | cons c cs ih =>
    show max 0 (Node.depthOf (cs.map .char)) = 0
    rw [ih]
    rfl

theorem Node.depth_ofParts_le (parts : List Node) : (Node.ofParts parts).depth ≤ Node.depthOf parts + 1 := by
  match parts with
  | [] => exact Nat.zero_le _
  | [part] =>
    show part.depth ≤ max part.depth 0 + 1
    omega
  | first :: second :: rest =>
    show (Node.concat (first :: second :: rest)).depth ≤ _
    rw [Node.depth]

/-! ## The regular expression of a plain pattern -/

theorem Node.regex?_char (c : Char) : (Node.char c).regex? .initial = some (.set (.single c), .initial) := rfl

theorem Node.concatRegex?_chars (cs : List Char) :
    Node.concatRegex? .initial (cs.map .char) = some (.literal cs, .initial) := by
  induction cs with
  | nil => rfl
  | cons c cs ih =>
    cases cs with
    | nil => exact Node.regex?_char c
    | cons d cs =>
      have hrest : Node.concatRegex? .initial (.char d :: cs.map .char) = some (.literal (d :: cs), .initial) := ih
      show Node.concatRegex? .initial (.char c :: .char d :: cs.map .char) = _
      simp only [Node.concatRegex?, Node.regex?_char, hrest, Option.bind_eq_bind, Option.bind_some]
      rfl

theorem Node.regex?_ofParts (f : Flags) (parts : List Node) :
    (Node.ofParts parts).regex? f = Node.concatRegex? f parts := by
  match parts with
  | [] => rfl
  | [_] => rfl
  | _ :: _ :: _ => rfl

theorem Node.toRegex?_ofParts (cs : List Char) : (Node.ofParts (cs.map .char)).toRegex? = some (.literal cs) := by
  unfold Node.toRegex?
  rw [Node.regex?_ofParts, Node.concatRegex?_chars]
  rfl

theorem Regex.isOrdered_literal (cs : List Char) : (Regex.literal cs).isOrdered = true := by
  induction cs with
  | nil => rfl
  | cons c cs ih =>
    cases cs with
    | nil => rfl
    | cons d cs => exact ih

/-! ### Its matches -/

theorem contains_single {d : Char} : (CharSet.single c).contains d = true ↔ d = c := by
  rw [← Char.toNat_inj]
  simp only [CharSet.contains, CharSet.containsNat, CharSet.single, CharSet.insideFrom]
  split_ifs with hbefore hinside
  · have hne : d.toNat ≠ c.toNat := Nat.ne_of_lt hbefore
    simp [hne]
  · have heq : d.toNat = c.toNat := by omega
    simp [heq]
  · have hne : d.toNat ≠ c.toNat := by omega
    simp [hne]

theorem Regex.matches_single : (Regex.set (.single c)).Matches words text i k ↔ text[i]? = some c ∧ k = i + 1 := by
  constructor
  · intro h
    cases h with
    | set hget hcontains => exact ⟨contains_single.mp hcontains ▸ hget, rfl⟩
  · rintro ⟨hget, rfl⟩
    exact .set hget (contains_single.mpr rfl)

theorem Regex.matches_literal_cons : (Regex.literal (c :: cs)).Matches words text i k ↔
    text[i]? = some c ∧ (Regex.literal cs).Matches words text (i + 1) k := by
  cases cs with
  | nil =>
    show (Regex.set (.single c)).Matches words text i k ↔ _ ∧ Regex.empty.Matches words text (i + 1) k
    rw [Regex.matches_single, Regex.matches_empty]
    refine and_congr_right fun hget => (and_iff_left ?_).symm
    exact (List.getElem?_eq_some_iff.mp hget).1
  | cons d cs =>
    constructor
    · intro h
      cases h with
      | cat hfirst hrest =>
        obtain ⟨hget, rfl⟩ := Regex.matches_single.mp hfirst
        exact ⟨hget, hrest⟩
    · rintro ⟨hget, hrest⟩
      exact .cat (Regex.matches_single.mpr ⟨hget, rfl⟩) hrest

/-- **A row of literals matches just where the text goes on with it.** -/
theorem Regex.matches_literal : (Regex.literal cs).Matches words text i k ↔
    i ≤ text.length ∧ k = i + cs.length ∧ text.drop i = cs ++ text.drop k := by
  induction cs generalizing i with
  | nil =>
    show Regex.empty.Matches words text i k ↔ _
    rw [Regex.matches_empty]
    constructor
    · rintro ⟨rfl, hle⟩
      exact ⟨hle, rfl, rfl⟩
    · rintro ⟨hle, hk, -⟩
      exact ⟨hk, hle⟩
  | cons c cs ih =>
    rw [Regex.matches_literal_cons, ih, List.length_cons]
    constructor
    · rintro ⟨hget, -, hk, hdrop⟩
      obtain ⟨hlt, hget⟩ := List.getElem?_eq_some_iff.mp hget
      refine ⟨Nat.le_of_lt hlt, by omega, ?_⟩
      rw [List.drop_eq_getElem_cons hlt, hget, hdrop]
      rfl
    · rintro ⟨hle, hk, hdrop⟩
      -- the rest of the text begins with the character, so it does not end here
      have hlt : i < text.length := by
        have hlength := congrArg List.length hdrop
        simp only [List.length_drop, List.length_append, List.length_cons] at hlength
        omega
      rw [List.drop_eq_getElem_cons hlt] at hdrop
      obtain ⟨hget, hdrop⟩ := List.cons.inj hdrop
      exact ⟨List.getElem?_eq_some_iff.mpr ⟨hlt, hget⟩, hlt, by omega, hdrop⟩

theorem Regex.matchesText_literal {s : String} :
    (Regex.literal cs).framed.matchesText s = true ↔ s.toList = cs := by
  rw [Regex.matchesText_framed (Regex.isOrdered_literal cs), Regex.matches_literal, Nat.zero_add, List.drop_zero,
    List.drop_length, List.append_nil]
  constructor
  · exact fun h => h.2.2
  · rintro rfl
    exact ⟨Nat.zero_le _, rfl, rfl⟩

/-! ### Its size -/

variable [PatternLimit]

theorem fits_literal_iff :
    PatternLimit.fits (Regex.literal pattern.toList).framed = true ↔ FitsLimit pattern :=
  PatternLimit.fits_literal_iff pattern

/-! ## Compiling plain patterns -/

/-- **A plain pattern compiles to its row of literals**, if it does not take too much room. -/
theorem compileAnchored?_of_isPlain (h : IsPlain pattern) : compileAnchored? pattern =
    if FitsLimit pattern then some (Regex.literal pattern.toList).framed else none := by
  have hdepth : (Node.ofParts (pattern.toList.map .char)).framed.depth ≤ maxDepth := by
    have hle := Node.depth_ofParts_le (pattern.toList.map .char)
    rw [Node.depthOf_chars] at hle
    rw [Node.depth_framed]
    unfold maxDepth
    omega
  unfold compileAnchored?
  rw [compile?_of_parseTree? (parseTree?_anchor_of_isPlain h), if_pos hdepth, Node.toRegex?_framed,
    Node.toRegex?_ofParts]
  show (if PatternLimit.fits (Regex.literal pattern.toList).framed = true then _ else _) = _
  simp only [fits_literal_iff]

/-- A plain pattern that compiles matches its own text only. -/
theorem exists_matchesText_of_isPlain (h : IsPlain pattern) {s : String} :
    (∃ r, compileAnchored? pattern = some r ∧ r.matchesText s = true) ↔ FitsLimit pattern ∧ s = pattern := by
  rw [compileAnchored?_of_isPlain h]
  split_ifs with hfits
  · simp [hfits, Regex.matchesText_literal, String.toList_inj]
  · simp [hfits]

end Pattern

/-! ## Equality and plain patterns -/

/-- The error as it is where another comparison has the same arguments. -/
def EvalError.withTest (test : Comparison) : EvalError → EvalError
  | invalidRoot found => .invalidRoot found
  | noResolvedDesignator _ => .noResolvedDesignator test
  | noMatchers _ => .noMatchers test
  | unsupportedArgument _ argument => .unsupportedArgument test argument

namespace Condition

open Pattern (IsPlain FitsLimit)

variable {principal : Principal} {args : List Condition} {test test' : Comparison}

variable [PatternLimit]

theorem accepts_regex_iff_of_isPlain {listed value : String} (hplain : IsPlain listed) (hfits : FitsLimit listed) :
    Comparison.regex.Accepts listed value ↔ Comparison.equal.Accepts listed value :=
  (Pattern.exists_matchesText_of_isPlain hplain).trans (and_iff_right hfits)

theorem Holds.of_accepts
    (h : ∀ listed, Lists args listed → ∀ value, test.Accepts listed value → test'.Accepts listed value) :
    Holds principal test args → Holds principal test' args := by
  rintro ⟨listed, found, value, hlisted, hfound, hvalue, haccepts⟩
  exact ⟨listed, found, value, hlisted, hfound, hvalue, h listed hlisted _ haccepts⟩

/-- Two comparisons that hold alike come to the same, but for their names in an error. -/
theorem ComparesTo.withTest {result : Except EvalError Bool} (h : ComparesTo principal test args result)
    (hholds : Holds principal test args ↔ Holds principal test' args) :
    ComparesTo principal test' args (result.mapError (EvalError.withTest test')) := by
  cases h with
  | unsupported hsplit hbefore hstop => exact .unsupported hsplit hbefore hstop
  | unresolved hall hnone => exact .unresolved hall hnone
  | unlisted hall hfound hnone => exact .unlisted hall hfound hnone
  | decided hall hfound hlisted hvalue => exact .decided hall hfound hlisted (hvalue.trans hholds)

theorem holds_equal_iff_of_isPlain (h : ∀ listed, Lists args listed → IsPlain listed ∧ FitsLimit listed) :
    Holds principal .equal args ↔ Holds principal .regex args := by
  constructor
  · refine Holds.of_accepts fun listed hlisted value => ?_
    obtain ⟨hplain, hfits⟩ := h listed hlisted
    exact (accepts_regex_iff_of_isPlain hplain hfits).mpr
  · refine Holds.of_accepts fun listed hlisted value => ?_
    obtain ⟨hplain, hfits⟩ := h listed hlisted
    exact (accepts_regex_iff_of_isPlain hplain hfits).mp

end Condition

open Condition (Lists compare designator literal)
open Pattern (IsPlain FitsLimit)

/-- **A plain pattern matches by equality.** As a target it covers the resource with its own text only.  It
compiles just when it does not take too much room, and where all listed values are such patterns, the two
comparisons come to the same, but for their names in an error. -/
theorem plain_patterns_match_by_equality [PatternLimit] :
    (∀ pattern, IsPlain pattern → ∀ resource, resourceMatches resource pattern = true ↔ resource = pattern) ∧
      (∀ pattern, IsPlain pattern → ((Pattern.compileAnchored? pattern).isSome = true ↔ FitsLimit pattern)) ∧
      ∀ principal args, (∀ listed, Lists args listed → IsPlain listed ∧ FitsLimit listed) →
        (compare .regex args).evaluate principal =
          ((compare .equal args).evaluate principal).mapError (EvalError.withTest .regex) := by
  refine ⟨fun pattern hplain resource => ?_, fun pattern hplain => ?_, fun principal args hlisted => ?_⟩
  · rw [resourceMatches_iff, Pattern.exists_matchesText_of_isPlain hplain, or_iff_left_of_imp And.right]
  · rw [Pattern.compileAnchored?_of_isPlain hplain]
    split_ifs with hfits <;> simp [hfits]
  · have hequal : Condition.ComparesTo principal .equal args ((compare .equal args).evaluate principal) :=
      Condition.evaluateCompare_eq_iff.mp rfl
    exact Condition.evaluateCompare_of_comparesTo (hequal.withTest (Condition.holds_equal_iff_of_isPlain hlisted))

/-- A line end behind the text of a pattern is not passed over, and an accent takes its two bytes. -/
theorem plain_patterns_end_with_the_text :
    let args := [designator "role", literal ["staff", "café"]]
    IsPlain "staff" ∧ resourceMatches "staff\n" "staff" = false ∧
      IsPlain "café" ∧ (Pattern.compileAnchored? "café").isSome = true ∧
      (∀ listed, Lists args listed → IsPlain listed ∧ FitsLimit listed) ∧
      (compare .regex args).evaluate ⟨"someone", fun _ => some ⟨"role", ["staff\n", "a café"]⟩⟩ = .ok false ∧
      (compare .regex args).evaluate ⟨"someone", fun _ => none⟩ = .error (.noResolvedDesignator .regex) := by
  intro args
  obtain ⟨hcovers, hcompiles, hevaluates⟩ := plain_patterns_match_by_equality
  have hstaff : IsPlain "staff" ∧ FitsLimit "staff" := by decide +kernel
  have hcafe : IsPlain "café" ∧ FitsLimit "café" := by decide +kernel
  have hlisted : ∀ listed, Lists args listed → IsPlain listed ∧ FitsLimit listed := by
    rintro listed ⟨values, hmem, hlisted⟩
    obtain rfl : values = ["staff", "café"] := by simpa [args] using hmem
    rcases List.mem_pair.mp hlisted with rfl | rfl
    · exact hstaff
    · exact hcafe
  refine ⟨hstaff.1, ?_, hcafe.1, (hcompiles "café" hcafe.1).mpr hcafe.2, hlisted, ?_, ?_⟩
  · rw [← Bool.not_eq_true, hcovers "staff" hstaff.1]
    decide
  · rw [hevaluates _ args hlisted]
    rfl
  · rw [hevaluates _ args hlisted]
    rfl

end AccessDecision
