import AccessDecision.Form.Settings

/-!
# Sections that set nothing

A settings document may leave out a section, give `null` for it, or do so for every field in it.  It then sets
nothing of the section, and in no other way (`Layer.leavesUnset_iff_of_ofDatum?`).
-/

namespace AccessDecision

/-- Nothing stands for a field, or `null` does. -/
def Slot.IsUnset : Slot Datum → Prop
  | .given value => value = .null
  | .unnamed | .unlisted => True

/-- What stands for a section sets none of its fields: it is left out, or `null`, or a record in which every
field is left out or `null`. -/
def Slot.LeavesUnset (dialect : Dialect) (fields : List String) : Slot Datum → Prop
  | .given body => body = .null ∨ ∃ slots, body.slots dialect fields = some slots ∧ ∀ slot ∈ slots, slot.IsUnset
  | .unnamed | .unlisted => True

variable {α : Type} {dialect : Dialect} {fields : List String} {slot : Slot Datum} {d : Datum}

theorem nullable_eq_some_none_iff {read : Datum → Option α} : nullable read d = some none ↔ d = .null := by
  cases d <;> simp [nullable]

theorem nullable_eq_some_some_iff {read : Datum → Option α} {v : α} :
    nullable read d = some (some v) ↔ d ≠ .null ∧ read d = some v := by
  cases d <;> simp [nullable]

/-- An optional field has no value if nothing or `null` stands for it, and only then. -/
theorem Slot.isUnset_iff_of_optional {read : Datum → Option α} {value : Option α}
    (h : slot.optional read = some value) : slot.IsUnset ↔ value = none := by
  cases slot with
  | given d =>
    constructor
    · rintro rfl
      exact (Option.some.inj h).symm
    · rintro rfl
      exact nullable_eq_some_none_iff.mp h
  | unnamed =>
    obtain rfl := Option.some.inj h
    exact iff_of_true trivial rfl
  | unlisted => cases h

/-- Whether a section sets any of its fields is a question about its body, if it has one. -/
theorem Slot.leavesUnset_iff_of_orElse {σ : Type} {read : Datum → Option σ} {unset : σ}
    (hread : ∀ body part, read body = some part →
      ((∃ slots, body.slots dialect fields = some slots ∧ ∀ slot ∈ slots, slot.IsUnset) ↔ part = unset))
    {section? : Option σ} (h : slot.orElse (nullable read) none = some section?) :
    slot.LeavesUnset dialect fields ↔ section? = none ∨ section? = some unset := by
  cases slot with
  | given body =>
    cases section? with
    | none => exact iff_of_true (.inl (nullable_eq_some_none_iff.mp h)) (.inl rfl)
    | some part =>
      obtain ⟨hnull, h⟩ := nullable_eq_some_some_iff.mp h
      simp [Slot.LeavesUnset, hnull, hread body part h]
  | unnamed => exact iff_of_true trivial (.inl (Option.some.inj h).symm)
  | unlisted => exact iff_of_true trivial (.inl (Option.some.inj h).symm)

theorem DecisionLayer.isUnset_iff (body : Datum) (part : DecisionLayer)
    (h : DecisionLayer.ofDatum? dialect body = some part) :
    (∃ slots, body.slots dialect ["default_mode"] = some slots ∧ ∀ slot ∈ slots, slot.IsUnset) ↔
      part = ⟨none⟩ := by
  obtain ⟨slots, hslots, h⟩ := Option.bind_eq_some_iff.mp h
  split at h
  · obtain ⟨mode, hmode, h⟩ := Option.bind_eq_some_iff.mp h
    obtain rfl := Option.some.inj h
    simp [hslots, Slot.isUnset_iff_of_optional hmode]
  · cases h

theorem LoggingLayer.isUnset_iff (body : Datum) (part : LoggingLayer)
    (h : LoggingLayer.ofDatum? dialect body = some part) :
    (∃ slots, body.slots dialect ["level", "format"] = some slots ∧ ∀ slot ∈ slots, slot.IsUnset) ↔
      part = ⟨none, none⟩ := by
  obtain ⟨slots, hslots, h⟩ := Option.bind_eq_some_iff.mp h
  split at h
  · obtain ⟨level, hlevel, h⟩ := Option.bind_eq_some_iff.mp h
    obtain ⟨format, hformat, h⟩ := Option.bind_eq_some_iff.mp h
    obtain rfl := Option.some.inj h
    simp [hslots, Slot.isUnset_iff_of_optional hlevel, Slot.isUnset_iff_of_optional hformat]
  · cases h

/-- **A document sets some field of a section** unless it leaves out the section, gives `null` for it, or does so
for every field in it. -/
theorem Layer.leavesUnset_iff_of_ofDatum? {layer : Layer} {decision logging : Slot Datum}
    (h : Layer.ofDatum? dialect d = some layer)
    (hslots : d.slots dialect ["decision", "logging"] = some [decision, logging]) :
    (decision.LeavesUnset dialect ["default_mode"] ↔ layer.decision = none ∨ layer.decision = some ⟨none⟩) ∧
      (logging.LeavesUnset dialect ["level", "format"] ↔
        layer.logging = none ∨ layer.logging = some ⟨none, none⟩) := by
  simp only [Layer.ofDatum?, hslots, Option.bind_eq_bind, Option.bind_some] at h
  obtain ⟨decisionLayer, hdecision, h⟩ := Option.bind_eq_some_iff.mp h
  obtain ⟨loggingLayer, hlogging, h⟩ := Option.bind_eq_some_iff.mp h
  obtain rfl := Option.some.inj h
  exact ⟨Slot.leavesUnset_iff_of_orElse DecisionLayer.isUnset_iff hdecision,
    Slot.leavesUnset_iff_of_orElse LoggingLayer.isUnset_iff hlogging⟩

end AccessDecision
