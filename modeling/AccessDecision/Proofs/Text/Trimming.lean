import AccessDecision.Text.Blank
import Mathlib.Data.List.TakeWhile

/-!
# What trimming leaves

`IsTrimOf` says without a scan what is left of a text when it is trimmed: the text without blank characters in
front of it and behind it, and with none at its own ends.  `isTrimOf_iff`: there is one such text, and `trim`
gives it.
-/

namespace AccessDecision.Text

/-! ## Definitions -/

/-- No blank character stands at either end of a text. -/
structure IsTrimmed (s : String) : Prop where
  head : ∀ c ∈ s.toList.head?, isBlank c = false
  last : ∀ c ∈ s.toList.getLast?, isBlank c = false

/-- A text is what is left of another one without the blank characters at the ends. -/
structure IsTrimOf (t s : String) : Prop extends IsTrimmed t where
  around : ∃ front back : List Char, (∀ c ∈ front, isBlank c = true) ∧ (∀ c ∈ back, isBlank c = true) ∧
    s.toList = front ++ (t.toList ++ back)

/-! ## Rows of characters -/

section Rows

variable {cs front back : List Char}

theorem dropWhile_of_head (h : ∀ c ∈ cs.head?, isBlank c = false) : cs.dropWhile isBlank = cs := by
  cases cs with
  | nil => rfl
  | cons c cs => exact List.dropWhile_cons_of_neg (by simp [h c rfl])

theorem isBlank_head_dropWhile (cs : List Char) : ∀ c ∈ (cs.dropWhile isBlank).head?, isBlank c = false := by
  intro c hc
  have hnot := List.head?_dropWhile_not isBlank cs
  rw [Option.mem_def] at hc
  rwa [hc] at hnot

theorem trimChars_append (hfront : ∀ c ∈ front, isBlank c = true) (hback : ∀ c ∈ back, isBlank c = true)
    (hhead : ∀ c ∈ cs.head?, isBlank c = false) (hlast : ∀ c ∈ cs.getLast?, isBlank c = false) :
    trimChars (front ++ (cs ++ back)) = cs := by
  unfold trimChars
  rw [List.dropWhile_append_of_pos hfront]
  cases cs with
  | nil =>
    have hnil : back.dropWhile isBlank = [] := List.dropWhile_eq_nil_iff.mpr hback
    rw [List.nil_append, hnil]
    rfl
  | cons c cs =>
    have hhead : ∀ d ∈ (c :: cs ++ back).head?, isBlank d = false := hhead
    -- trimming the end is trimming the beginning of the reversed text
    have hback : ∀ d ∈ back.reverse, isBlank d = true := fun d hd => hback d (List.mem_reverse.mp hd)
    have hlast : ∀ d ∈ (c :: cs).reverse.head?, isBlank d = false := by
      rw [List.head?_reverse]
      exact hlast
    rw [dropWhile_of_head hhead, List.reverse_append, List.dropWhile_append_of_pos hback, dropWhile_of_head hlast,
      List.reverse_reverse]

theorem exists_blanks_around (cs : List Char) :
    ∃ front back, (∀ c ∈ front, isBlank c = true) ∧ (∀ c ∈ back, isBlank c = true) ∧
      cs = front ++ (trimChars cs ++ back) := by
  refine ⟨cs.takeWhile isBlank, ((cs.dropWhile isBlank).reverse.takeWhile isBlank).reverse, ?_, ?_, ?_⟩
  · exact fun c hc => List.mem_takeWhile_imp hc
  · exact fun c hc => List.mem_takeWhile_imp (List.mem_reverse.mp hc)
  · unfold trimChars
    rw [← List.reverse_append, List.takeWhile_append_dropWhile, List.reverse_reverse,
      List.takeWhile_append_dropWhile]

theorem isBlank_last_trimChars (cs : List Char) : ∀ c ∈ (trimChars cs).getLast?, isBlank c = false := by
  unfold trimChars
  rw [List.getLast?_reverse]
  exact isBlank_head_dropWhile _

theorem isBlank_head_trimChars (cs : List Char) : ∀ c ∈ (trimChars cs).head?, isBlank c = false := by
  intro c hc
  have hprefix : trimChars cs <+: cs.dropWhile isBlank := by
    rw [← List.reverse_suffix]
    unfold trimChars
    rw [List.reverse_reverse]
    exact List.dropWhile_suffix isBlank
  -- trimming the end leaves the first character, if it leaves one
  obtain ⟨back, hback⟩ := hprefix
  refine isBlank_head_dropWhile cs c ?_
  rw [← hback, List.head?_append, Option.mem_def.mp hc]
  rfl

end Rows

/-! ## Texts -/

theorem isTrimmed_trim (s : String) : IsTrimmed (trim s) := by
  constructor <;> rw [trim, String.toList_ofList]
  · exact isBlank_head_trimChars s.toList
  · exact isBlank_last_trimChars s.toList

/-- **There is one text that is left when a text is trimmed.** -/
theorem isTrimOf_iff {t s : String} : IsTrimOf t s ↔ t = trim s := by
  constructor
  · rintro ⟨⟨hhead, hlast⟩, front, back, hfront, hback, hs⟩
    rw [trim, hs, trimChars_append hfront hback hhead hlast, String.ofList_toList]
  · rintro rfl
    obtain ⟨front, back, hfront, hback, hs⟩ := exists_blanks_around s.toList
    refine ⟨isTrimmed_trim s, front, back, hfront, hback, ?_⟩
    rwa [trim, String.toList_ofList]

theorem trim_eq_empty_iff {s : String} : trim s = "" ↔ ∀ c ∈ s.toList, isBlank c = true := by
  rw [eq_comm, ← isTrimOf_iff]
  constructor
  · rintro ⟨-, front, back, hfront, hback, hs⟩
    rw [hs]
    exact fun c hc => (List.mem_append.mp hc).elim (hfront c) (hback c)
  · exact fun h => ⟨⟨by simp, by simp⟩, s.toList, [], h, by simp, by simp⟩

theorem trim_of_isTrimmed {s : String} (h : IsTrimmed s) : trim s = s :=
  (isTrimOf_iff.mp ⟨h, [], [], by simp, by simp, by simp⟩).symm

end AccessDecision.Text
