import AccessDecision.Text.Blank
import Mathlib.Data.List.TakeDrop
import Mathlib.Data.List.TakeWhile

/-!
# Splitting a text at a mark

The first occurrence of a mark splits a text in one way (`splitAt?_eq_some_iff`), and a text is split if the mark
occurs in it (`splitAt?_eq_none_iff`).
-/

namespace AccessDecision.Text

variable {mark : Char} {before after : List Char}

theorem span_of_not_mem (h : mark ∉ before) :
    (before ++ mark :: after).span (· != mark) = (before, mark :: after) := by
  have hbefore : ∀ c ∈ before, (c != mark) = true := fun c hc => bne_iff_ne.mpr (ne_of_mem_of_not_mem hc h)
  rw [List.span_eq_takeWhile_dropWhile, List.takeWhile_append_of_pos hbefore, List.dropWhile_append_of_pos hbefore]
  simp

theorem splitAt?_of_not_mem {s : String} (h : mark ∉ before) (hs : s.toList = before ++ mark :: after) :
    splitAt? mark s = some (String.ofList before, String.ofList after) := by
  unfold splitAt?
  rw [hs, span_of_not_mem h]

theorem splitAt?_eq_none_iff {s : String} : splitAt? mark s = none ↔ mark ∉ s.toList := by
  constructor
  · intro h hmem
    obtain ⟨before, after, hs, hbefore⟩ := List.eq_append_cons_of_mem hmem
    rw [splitAt?_of_not_mem hbefore hs] at h
    cases h
  · intro h
    have hall : ∀ c ∈ s.toList, (c != mark) = true := fun c hc => bne_iff_ne.mpr (ne_of_mem_of_not_mem hc h)
    unfold splitAt?
    rw [List.span_eq_takeWhile_dropWhile, List.dropWhile_eq_nil_iff.mpr hall]

theorem splitAt?_eq_some_iff {s before after : String} :
    splitAt? mark s = some (before, after) ↔
      s.toList = before.toList ++ mark :: after.toList ∧ mark ∉ before.toList := by
  constructor
  · intro h
    have hmem : mark ∈ s.toList := by
      by_contra hnot
      rw [splitAt?_eq_none_iff.mpr hnot] at h
      cases h
    obtain ⟨front, back, hs, hfront⟩ := List.eq_append_cons_of_mem hmem
    rw [splitAt?_of_not_mem hfront hs] at h
    obtain ⟨rfl, rfl⟩ := Prod.mk.inj (Option.some.inj h)
    rw [String.toList_ofList, String.toList_ofList]
    exact ⟨hs, hfront⟩
  · rintro ⟨hs, hbefore⟩
    rw [splitAt?_of_not_mem hbefore hs, String.ofList_toList, String.ofList_toList]

end AccessDecision.Text
