import AccessDecision.CommandLine.Attributes
import AccessDecision.Proofs.Text.Splitting
import AccessDecision.Proofs.Text.Trimming

/-!
# Which texts are attributes

A text is an attribute if it has an equals sign and something that is not blank in front of the first one
(`IsAssignment`).  The texts given on the command line make a principal if all of them are attributes
(`exists_ofAssignments_iff`).
-/

namespace AccessDecision

/-- A text is `NAME=VALUE` with a name that is not blank. -/
def IsAssignment (text : String) : Prop :=
  ∃ name value : List Char, text.toList = name ++ '=' :: value ∧ '=' ∉ name ∧ ∃ c ∈ name, Text.isBlank c = false

/-- What precedes the first equals sign is the name. -/
theorem isAssignment_iff_of_splitAt? {text name value : String} (h : Text.splitAt? '=' text = some (name, value)) :
    IsAssignment text ↔ Text.trim name ≠ "" := by
  have hblank : Text.trim name ≠ "" ↔ ∃ c ∈ name.toList, Text.isBlank c = false := by
    rw [Ne, Text.trim_eq_empty_iff]
    simp
  rw [hblank]
  constructor
  · rintro ⟨name', value', htext, hname', hsome⟩
    rw [Text.splitAt?_of_not_mem hname' htext] at h
    obtain ⟨rfl, -⟩ := Prod.mk.inj (Option.some.inj h)
    rwa [String.toList_ofList]
  · intro hsome
    obtain ⟨htext, hname⟩ := Text.splitAt?_eq_some_iff.mp h
    exact ⟨name.toList, value.toList, htext, hname, hsome⟩

theorem exists_assignment_iff (text : String) : (∃ pair, assignment text = .ok pair) ↔ IsAssignment text := by
  unfold assignment
  cases h : Text.splitAt? '=' text with
  | none =>
    have hnot : ¬ IsAssignment text := by
      rintro ⟨name, value, htext, -⟩
      exact Text.splitAt?_eq_none_iff.mp h (by simp [htext])
    simp [hnot]
  | some pair =>
    obtain ⟨name, value⟩ := pair
    rw [isAssignment_iff_of_splitAt? h]
    by_cases hname : Text.trim name = "" <;> simp [hname]

/-! ## Principals -/

variable {text : String} {texts : List String} {principal : SessionPrincipal} {e : AttributeError}
  {pair : String × String}

theorem SessionPrincipal.assign_of_error (h : assignment text = .error e) : principal.assign text = .error e := by
  simp [SessionPrincipal.assign, h, bind, Except.bind]

theorem SessionPrincipal.assign_of_ok (h : assignment text = .ok pair) :
    principal.assign text = .ok (principal.addValues pair.1 [pair.2]) := by
  simp [SessionPrincipal.assign, h, bind, Except.bind, pure, Except.pure]

theorem exists_foldlM_assign_iff :
    (∃ result, texts.foldlM SessionPrincipal.assign principal = .ok result) ↔
      ∀ text ∈ texts, IsAssignment text := by
  induction texts generalizing principal with
  | nil => simp [pure, Except.pure]
  | cons text texts ih =>
    rw [List.forall_mem_cons, ← exists_assignment_iff, List.foldlM_cons]
    cases h : assignment text with
    | error e => simp [SessionPrincipal.assign_of_error h, bind, Except.bind]
    | ok pair => simpa [SessionPrincipal.assign_of_ok h, bind, Except.bind] using ih

/-- **A principal comes of texts exactly if each of them is an attribute.** -/
theorem SessionPrincipal.exists_ofAssignments_iff (subject : String) (texts : List String) :
    (∃ result, SessionPrincipal.ofAssignments subject texts = .ok result) ↔ ∀ text ∈ texts, IsAssignment text :=
  exists_foldlM_assign_iff

end AccessDecision
