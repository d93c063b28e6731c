import AccessDecision.Proofs.Pattern.WholeText
import Mathlib.Data.Nat.Bitwise
import Mathlib.Logic.Function.Iterate

/-!
# Matching by sets of places is matching

A step on sets of places follows a relation between places (`Follows`) if it takes each set to the places that
the relation leads to.  Every regular expression is followed by its moves (`Regex.follows_reach`), so it is found
in a text by sets of places just when it matches somewhere (`Regex.isMatch_iff`).  Repetitions carry the
argument: a repetition is a row of matches (`Regex.Times`), and a row can be shortened until every match in it
goes forward, so as many rounds as the text has places are enough where there is no upper bound.

Between the conditions of the frame a regular expression matches whole texts only (`Regex.matchesText_framed`).
-/

namespace AccessDecision.Pattern

open Text (CharSet)

variable {words : CharSet} {text : List Char} {r : Regex}

/-! ## Matches go forward -/

theorem Regex.Matches.bounds {i j : Nat} (h : r.Matches words text i j) : i ≤ j ∧ j ≤ text.length := by
  induction h with
  | empty hle | look hle _ | repeatsDone hle => exact ⟨Nat.le_refl _, hle⟩
  | set hget _ => exact ⟨Nat.le_succ _, (List.getElem?_eq_some_iff.mp hget).1⟩
  | cat _ _ ih ih' => exact ⟨ih.1.trans ih'.1, ih'.2⟩
  | repeatsMore _ _ _ ih ih' => exact ⟨ih.1.trans ih'.1, ih'.2⟩
  | altLeft _ ih | altRight _ ih | capture _ ih => exact ih

theorem Regex.matches_empty {i k : Nat} : Regex.empty.Matches words text i k ↔ k = i ∧ i ≤ text.length := by
  constructor
  · intro h
    cases h with
    | empty hle => exact ⟨rfl, hle⟩
  · rintro ⟨rfl, hle⟩
    exact .empty hle

theorem Regex.matches_cat {s : Regex} {i k : Nat} :
    (Regex.cat r s).Matches words text i k ↔ ∃ j, r.Matches words text i j ∧ s.Matches words text j k := by
  constructor
  · intro h
    cases h with
    | cat hfirst hsecond => exact ⟨_, hfirst, hsecond⟩
  · rintro ⟨j, hfirst, hsecond⟩
    exact .cat hfirst hsecond

theorem Regex.matches_alt {s : Regex} {i k : Nat} :
    (Regex.alt r s).Matches words text i k ↔ r.Matches words text i k ∨ s.Matches words text i k := by
  constructor
  · intro h
    cases h with
    | altLeft h => exact Or.inl h
    | altRight h => exact Or.inr h
  · rintro (h | h)
    · exact .altLeft h
    · exact .altRight h

theorem Regex.matches_capture {i k : Nat} :
    (Regex.capture r).Matches words text i k ↔ r.Matches words text i k := by
  constructor
  · intro h
    cases h with
    | capture h => exact h
  · exact .capture

/-- A number of matches that follow each other. -/
inductive Regex.Times (words : CharSet) (text : List Char) (r : Regex) : Nat → Nat → Nat → Prop where
  | zero {i : Nat} : Times words text r 0 i i
  | succ {n i j k : Nat} : r.Matches words text i j → Times words text r n j k → Times words text r (n + 1) i k

namespace Regex.Times

variable {n m i j k : Nat}

theorem le (h : r.Times words text n i k) : i ≤ k := by
  induction h with
  | zero => exact Nat.le_refl _
  | succ hmatch _ ih => exact hmatch.bounds.1.trans ih

theorem le_length (h : r.Times words text n i k) (hi : i ≤ text.length) : k ≤ text.length := by
  induction h with
  | zero => exact hi
  | succ hmatch _ ih => exact ih hmatch.bounds.2

theorem append (h : r.Times words text n i j) (h' : r.Times words text m j k) :
    r.Times words text (n + m) i k := by
  induction h with
  | zero =>
    rw [Nat.zero_add]
    exact h'
  | succ hmatch _ ih =>
    rw [Nat.succ_add]
    exact .succ hmatch (ih h')

theorem split (h : r.Times words text (n + m) i k) :
    ∃ j, r.Times words text n i j ∧ r.Times words text m j k := by
  induction n generalizing i with
  | zero =>
    rw [Nat.zero_add] at h
    exact ⟨i, .zero, h⟩
  | succ n ih =>
    rw [Nat.succ_add] at h
    cases h with
    | succ hmatch htimes =>
      obtain ⟨j, hfirst, hsecond⟩ := ih htimes
      exact ⟨j, .succ hmatch hfirst, hsecond⟩

/-- Matches that stay where they are can be left out. -/
theorem shorten (h : r.Times words text n i k) : ∃ m ≤ k - i, r.Times words text m i k := by
  induction h with
  | zero => exact ⟨0, Nat.zero_le _, .zero⟩
  | @succ n i j k hmatch htimes ih =>
    obtain ⟨m, hm, hshort⟩ := ih
    have hle := hmatch.bounds.1
    have hle' := htimes.le
    by_cases heq : i = j
    · subst heq
      exact ⟨m, hm, hshort⟩
    · exact ⟨m + 1, by omega, .succ hmatch hshort⟩

end Regex.Times

/-- A repetition is a row of matches whose number is in its bounds. -/
theorem Regex.matches_repeats {min : Nat} {max : Option Nat} {i k : Nat} (hi : i ≤ text.length) :
    (Regex.repeats min max r).Matches words text i k ↔
      ∃ n, min ≤ n ∧ (∀ most ∈ max, n ≤ most) ∧ r.Times words text n i k := by
  constructor
  · intro h
    -- the bounds go down by one with each match, so the induction is on the match for all bounds
    generalize hrepeats : Regex.repeats min max r = whole at h
    induction h generalizing min max with
    | repeatsDone _ =>
      cases hrepeats
      exact ⟨0, Nat.le_refl 0, fun _ _ => Nat.zero_le _, .zero⟩
    | repeatsMore hmax hmatch _ _ ih =>
      cases hrepeats
      obtain ⟨n, hmin, hmost, htimes⟩ := ih hmatch.bounds.2 rfl
      refine ⟨n + 1, by omega, ?_, .succ hmatch htimes⟩
      rintro most rfl
      have hle := hmost (most - 1) rfl
      have hne : most ≠ 0 := fun hzero => hmax (by rw [hzero])
      omega
    | empty _ | set _ _ | look _ _ | cat _ _ _ _ | altLeft _ _ | altRight _ _ | capture _ _ => cases hrepeats
  · rintro ⟨n, hmin, hmost, htimes⟩
    induction htimes generalizing min max with
    | zero =>
      obtain rfl := Nat.le_zero.mp hmin
      exact .repeatsDone hi
    | @succ n i j k hmatch _ ih =>
      refine .repeatsMore ?_ hmatch (ih hmatch.bounds.2 (by omega) ?_)
      · rintro rfl
        exact absurd (hmost 0 rfl) (Nat.not_succ_le_zero n)
      · intro most hmem
        obtain ⟨most', rfl, rfl⟩ := Option.map_eq_some_iff.mp hmem
        have hle := hmost most' rfl
        omega

/-! ## Sets of places -/

/-- All places of the set are below a bound. -/
def Within (size places : Nat) : Prop := ∀ i, places.testBit i = true → i < size

/-- A step takes each set of places of a text to the places that a relation leads to from there. -/
def Follows (size : Nat) (step : Nat → Nat) (R : Nat → Nat → Prop) : Prop :=
  ∀ places, Within size places → ∀ k, (step places).testBit k = true ↔ ∃ i, places.testBit i = true ∧ R i k

theorem testBit_placesWhere {test : Option Char → Option Char → Bool} {before : Option Char} {cs : List Char}
    {i : Nat} : (placesWhere test before cs).testBit i = true ↔
      i ≤ cs.length ∧ test (if i = 0 then before else cs[i - 1]?) cs[i]? = true := by
  induction cs generalizing before i with
  | nil =>
    unfold placesWhere
    cases i with
    | zero => cases htest : test before none <;> simp [htest]
    | succ i => split_ifs <;> simp [Nat.testBit_succ]
  | cons c cs ih =>
    unfold placesWhere
    cases i with
    | zero => cases htest : test before (some c) <;> simp [htest]
    | succ i =>
      -- the bits of the later places are the number without its lowest bit
      have hhalf : (2 * placesWhere test (some c) cs + if test before (some c) = true then 1 else 0) / 2 =
          placesWhere test (some c) cs := by
        split_ifs <;> omega
      rw [Nat.testBit_succ, hhalf, ih]
      cases i <;> simp

theorem charBefore_eq (text : List Char) (i : Nat) : charBefore text i = if i = 0 then none else text[i - 1]? := by
  cases i <;> rfl

/-- A step that changes nothing need not be repeated. -/
theorem iterate_eq (step : Nat → Nat) (n places : Nat) : iterate step n places = step^[n] places := by
  induction n generalizing places with
  | zero => rfl
  | succ n ih =>
    rw [iterate, Function.iterate_succ_apply]
    split_ifs with hnext
    · rw [hnext, Function.iterate_fixed hnext]
    · exact ih (step places)

/-! ## Steps on sets of places -/

section Steps

variable {size : Nat} {step step' : Nat → Nat} {R R' : Nat → Nat → Prop}

theorem Follows.within (h : Follows size step R) (hR : ∀ i k, R i k → k < size) {places : Nat}
    (hplaces : Within size places) : Within size (step places) := by
  intro k hk
  obtain ⟨i, -, hik⟩ := (h places hplaces k).mp hk
  exact hR i k hik

theorem Follows.comp (h : Follows size step R) (h' : Follows size step' R') (hR : ∀ i k, R i k → k < size) :
    Follows size (fun places => step' (step places)) fun i k => ∃ j, R i j ∧ R' j k := by
  intro places hplaces k
  rw [h' _ (h.within hR hplaces)]
  constructor
  · rintro ⟨j, hj, hjk⟩
    obtain ⟨i, hi, hij⟩ := (h places hplaces j).mp hj
    exact ⟨i, hi, j, hij, hjk⟩
  · rintro ⟨i, hi, j, hij, hjk⟩
    exact ⟨j, (h places hplaces j).mpr ⟨i, hi, hij⟩, hjk⟩

theorem Follows.union (h : Follows size step R) (h' : Follows size step' R') :
    Follows size (fun places => step places ||| step' places) fun i k => R i k ∨ R' i k := by
  intro places hplaces k
  rw [Nat.testBit_or, Bool.or_eq_true, h places hplaces, h' places hplaces]
  constructor
  · rintro (⟨i, hi, hik⟩ | ⟨i, hi, hik⟩)
    · exact ⟨i, hi, Or.inl hik⟩
    · exact ⟨i, hi, Or.inr hik⟩
  · rintro ⟨i, hi, hik | hik⟩
    · exact Or.inl ⟨i, hi, hik⟩
    · exact Or.inr ⟨i, hi, hik⟩

theorem Follows.stay : Follows size (fun places => places) fun i k => i = k := by
  intro places _ k
  constructor
  · exact fun hk => ⟨k, hk, rfl⟩
  · rintro ⟨i, hi, rfl⟩
    exact hi

/-- A step may be taken to follow any relation that agrees inside the text. -/
theorem Follows.congr (h : Follows size step R) (hR : ∀ i k, i < size → (R i k ↔ R' i k)) :
    Follows size step R' := by
  intro places hplaces k
  rw [h places hplaces]
  constructor
  · rintro ⟨i, hi, hik⟩
    exact ⟨i, hi, (hR i k (hplaces i hi)).mp hik⟩
  · rintro ⟨i, hi, hik⟩
    exact ⟨i, hi, (hR i k (hplaces i hi)).mpr hik⟩

end Steps

/-! ## Repetitions -/

section Repetitions

variable {step : Nat → Nat}

/-- Taking a step a number of times follows that many matches. -/
theorem Follows.iterate (h : Follows (text.length + 1) step (r.Matches words text)) (n : Nat) :
    Follows (text.length + 1) (step^[n]) (r.Times words text n) := by
  induction n with
  | zero =>
    refine Follows.stay.congr fun i k _ => ⟨?_, ?_⟩
    · rintro rfl
      exact .zero
    · rintro ⟨⟩
      rfl
  | succ n ih =>
    have hcomp := h.comp ih fun i k hik => Nat.lt_succ_of_le hik.bounds.2
    refine Follows.congr hcomp fun i k _ => ⟨?_, ?_⟩
    · rintro ⟨j, hmatch, htimes⟩
      exact .succ hmatch htimes
    · rintro (_ | ⟨hmatch, htimes⟩)
      exact ⟨_, hmatch, htimes⟩

/-- Keeping the places while a step is taken a number of times follows at most that many matches. -/
theorem Follows.iterate_more (h : Follows (text.length + 1) step (r.Matches words text)) (n : Nat) :
    Follows (text.length + 1) ((fun places => places ||| step places)^[n])
      fun i k => ∃ m ≤ n, r.Times words text m i k := by
  induction n with
  | zero =>
    refine Follows.stay.congr fun i k _ => ⟨?_, ?_⟩
    · rintro rfl
      exact ⟨0, Nat.le_refl 0, .zero⟩
    · rintro ⟨m, hm, htimes⟩
      obtain rfl := Nat.le_zero.mp hm
      cases htimes
      rfl
  | succ n ih =>
    -- one more round either stays or takes a match
    have hmore : Follows (text.length + 1) (fun places => places ||| step places)
        fun i k => i < text.length + 1 ∧ (i = k ∨ r.Matches words text i k) :=
      (Follows.stay.union h).congr fun i k hi => (and_iff_right hi).symm
    have hbound : ∀ i k, (i < text.length + 1 ∧ (i = k ∨ r.Matches words text i k)) → k < text.length + 1 := by
      rintro i k ⟨hi, rfl | hmatch⟩
      · exact hi
      · exact Nat.lt_succ_of_le hmatch.bounds.2
    refine Follows.congr (hmore.comp ih hbound) fun i k hi => ⟨?_, ?_⟩
    · rintro ⟨j, ⟨-, rfl | hmatch⟩, m, hm, htimes⟩
      · exact ⟨m, Nat.le_succ_of_le hm, htimes⟩
      · exact ⟨m + 1, Nat.succ_le_succ hm, .succ hmatch htimes⟩
    · rintro ⟨m, hm, htimes⟩
      cases htimes with
      | zero => exact ⟨i, ⟨hi, Or.inl rfl⟩, 0, Nat.zero_le n, .zero⟩
      | succ hmatch htimes => exact ⟨_, ⟨hi, Or.inr hmatch⟩, _, Nat.le_of_succ_le_succ hm, htimes⟩

/-- Rounds that cover the bounds, or the text where there is no upper bound, follow a repetition. -/
theorem Follows.repeats {min : Nat} {max : Option Nat} (hbounds : inOrder min max = true)
    (h : Follows (text.length + 1) step (r.Matches words text)) :
    Follows (text.length + 1)
      (fun places => (fun places => places ||| step places)^[(max.map (· - min)).getD (text.length + 1)]
        (step^[min] places))
      ((Regex.repeats min max r).Matches words text) := by
  have hleast : Follows (text.length + 1) (step^[min])
      fun i k => i < text.length + 1 ∧ r.Times words text min i k :=
    (h.iterate min).congr fun i k hi => (and_iff_right hi).symm
  have hcomp := hleast.comp (h.iterate_more ((max.map (· - min)).getD (text.length + 1)))
    fun i k hik => Nat.lt_succ_of_le (hik.2.le_length (Nat.le_of_lt_succ hik.1))
  refine Follows.congr hcomp fun i k hi => ?_
  rw [Regex.matches_repeats (Nat.le_of_lt_succ hi)]
  constructor
  · rintro ⟨j, ⟨-, hfirst⟩, m, hm, hmore⟩
    refine ⟨min + m, Nat.le_add_right min m, ?_, hfirst.append hmore⟩
    rintro most rfl
    have hle : min ≤ most := by simpa [inOrder] using hbounds
    have hm : m ≤ most - min := hm
    omega
  · rintro ⟨n, hmin, hmost, htimes⟩
    obtain ⟨m, rfl⟩ := Nat.exists_eq_add_of_le hmin
    obtain ⟨j, hfirst, hmore⟩ := htimes.split
    refine ⟨j, ⟨hi, hfirst⟩, ?_⟩
    cases max with
    | none =>
      -- without an upper bound a row may be longer than the text, but a shorter one leads to the same place
      obtain ⟨m', hm', hshort⟩ := hmore.shorten
      have hk := htimes.le_length (Nat.le_of_lt_succ hi)
      exact ⟨m', show m' ≤ text.length + 1 by omega, hshort⟩
    | some most =>
      have hle := hmost most rfl
      exact ⟨m, show m ≤ most - min by omega, hmore⟩

end Repetitions

/-! ## Regular expressions -/

/-- Moving on from the places where the next character is in a set follows that set. -/
theorem follows_set {chars : CharSet} {before : Option Char} :
    Follows (text.length + 1)
      (fun places => (places &&& placesWhere (fun _ next => next.any chars.contains) before text) <<< 1)
      ((Regex.set chars).Matches words text) := by
  intro places _ k
  -- a place is reached from the one in front of it
  rw [Nat.testBit_shiftLeft, Nat.testBit_and]
  simp only [Bool.and_eq_true, decide_eq_true_eq, testBit_placesWhere]
  constructor
  · rintro ⟨hk, hplace, -, hset⟩
    obtain ⟨c, hget, hc⟩ := (Option.any_eq_true _ _).mp hset
    have hmatch : (Regex.set chars).Matches words text (k - 1) (k - 1 + 1) := .set hget hc
    rw [Nat.sub_add_cancel hk] at hmatch
    exact ⟨k - 1, hplace, hmatch⟩
  · rintro ⟨i, hi, hmatch⟩
    cases hmatch with
    | set hget hc =>
      have hlt := (List.getElem?_eq_some_iff.mp hget).1
      refine ⟨Nat.le_add_left 1 i, hi, Nat.le_of_lt hlt, ?_⟩
      rw [Nat.add_sub_cancel, hget]
      exact hc

/-- Keeping the places where a condition holds follows that condition. -/
theorem follows_look {condition : Look} :
    Follows (text.length + 1) (fun places => places &&& placesWhere (condition.holds words) none text)
      ((Regex.look condition).Matches words text) := by
  intro places _ k
  rw [Nat.testBit_and]
  simp only [Bool.and_eq_true, testBit_placesWhere, ← charBefore_eq]
  constructor
  · rintro ⟨hplace, hle, hlook⟩
    exact ⟨k, hplace, .look hle hlook⟩
  · rintro ⟨i, hi, hmatch⟩
    cases hmatch with
    | look hle hlook => exact ⟨hi, hle, hlook⟩

/-- **The moves of a regular expression follow its matches.** -/
theorem Regex.follows_reach (r : Regex) (hordered : r.isOrdered = true) :
    Follows (text.length + 1) ((r.moves words text).reach (text.length + 1)) (r.Matches words text) := by
  induction r with
  | empty =>
    refine Follows.stay.congr fun i k hi => ?_
    rw [Regex.matches_empty, and_iff_left (Nat.le_of_lt_succ hi), eq_comm]
  | set chars => exact follows_set
  | look condition => exact follows_look
  | cat r s ihr ihs =>
    rw [Regex.isOrdered, Bool.and_eq_true] at hordered
    -- the second step is taken inside the text, for matches do not lead out of it
    have hcomp := (ihr hordered.1).comp (ihs hordered.2) fun i k hik => Nat.lt_succ_of_le hik.bounds.2
    exact hcomp.congr fun i k _ => Regex.matches_cat.symm
  | alt r s ihr ihs =>
    rw [Regex.isOrdered, Bool.and_eq_true] at hordered
    exact ((ihr hordered.1).union (ihs hordered.2)).congr fun i k _ => Regex.matches_alt.symm
  | repeats min max r ih =>
    rw [Regex.isOrdered, Bool.and_eq_true] at hordered
    have hrepeats := (ih hordered.2).repeats hordered.1
    intro places hplaces k
    rw [← hrepeats places hplaces k]
    -- the least number of rounds is taken first, and the places are kept in those after it
    show (Pattern.iterate _ _ (Pattern.iterate _ _ _)).testBit k = true ↔ _
    rw [iterate_eq, iterate_eq]
  | capture r ih => exact (ih hordered).congr fun i k _ => Regex.matches_capture.symm

/-- **A regular expression is found in a text just when it matches somewhere in it.** -/
theorem Regex.isMatch_iff (hordered : r.isOrdered = true) : r.isMatch words text = true ↔ r.Finds words text := by
  -- matching starts at all places of the text
  have hall : ∀ i, (Nat.pow 2 (text.length + 1) - 1).testBit i = decide (i < text.length + 1) := fun i =>
    Nat.testBit_two_pow_sub_one (text.length + 1) i
  have hwithin : Within (text.length + 1) (Nat.pow 2 (text.length + 1) - 1) := by
    intro i hi
    rw [hall] at hi
    exact of_decide_eq_true hi
  have hfollows : Follows (text.length + 1) ((r.moves words text).reach (text.length + 1))
      (r.Matches words text) :=
    r.follows_reach hordered
  have hreach := hfollows _ hwithin
  unfold Regex.isMatch
  rw [bne_iff_ne]
  constructor
  · intro hne
    obtain ⟨k, hk⟩ := Nat.exists_testBit_of_ne_zero hne
    obtain ⟨i, -, hmatch⟩ := (hreach k).mp hk
    exact ⟨i, k, hmatch⟩
  · rintro ⟨i, k, hmatch⟩ hzero
    have hi : i < text.length + 1 := Nat.lt_succ_of_le (hmatch.bounds.1.trans hmatch.bounds.2)
    have hk := (hreach k).mpr ⟨i, by rw [hall]; exact decide_eq_true hi, hmatch⟩
    rw [hzero, Nat.zero_testBit] at hk
    cases hk

/-! ## Whole texts -/

theorem Regex.matches_textStart {i k : Nat} :
    (Regex.look .textStart).Matches words text i k ↔ i = 0 ∧ k = 0 := by
  constructor
  · intro h
    cases h with
    | look hle hstart =>
      cases i with
      | zero => exact ⟨rfl, rfl⟩
      | succ i =>
        have hget : text[i]?.isNone = true := hstart
        simp only [Option.isNone_iff_eq_none, List.getElem?_eq_none_iff] at hget
        omega
  · rintro ⟨rfl, rfl⟩
    exact .look (Nat.zero_le _) rfl

theorem Regex.matches_textEnd {i k : Nat} :
    (Regex.look .textEnd).Matches words text i k ↔ i = text.length ∧ k = text.length := by
  constructor
  · intro h
    cases h with
    | look hle hend =>
      have hget : text[i]?.isNone = true := hend
      simp only [Option.isNone_iff_eq_none, List.getElem?_eq_none_iff] at hget
      have heq : i = text.length := by omega
      exact ⟨heq, heq⟩
  · rintro ⟨rfl, rfl⟩
    refine .look (Nat.le_refl _) ?_
    simp [Look.holds]

theorem Regex.finds_framed : r.framed.Finds words text ↔ r.Matches words text 0 text.length := by
  constructor
  · rintro ⟨i, k, hmatch⟩
    cases hmatch with
    | cat hstart hrest =>
      cases hrest with
      | cat hmatch hstop =>
        obtain ⟨rfl, rfl⟩ := Regex.matches_textStart.mp hstart
        obtain ⟨rfl, rfl⟩ := Regex.matches_textEnd.mp hstop
        exact hmatch
  · intro hmatch
    exact ⟨0, text.length, .cat (Regex.matches_textStart.mpr ⟨rfl, rfl⟩)
      (.cat hmatch (Regex.matches_textEnd.mpr ⟨rfl, rfl⟩))⟩

/-- **Between the conditions of the frame a regular expression matches the whole text.** -/
theorem Regex.matchesText_framed {s : String} (hordered : r.isOrdered = true) :
    r.framed.matchesText s = true ↔ r.Matches Text.Property.word s.toList 0 s.toList.length := by
  have hframed : r.framed.isOrdered = true := by
    simp [Regex.framed, Regex.isOrdered, hordered]
  exact (Regex.isMatch_iff hframed).trans Regex.finds_framed

end AccessDecision.Pattern
