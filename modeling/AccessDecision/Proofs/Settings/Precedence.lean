import AccessDecision.Proofs.Form.Settings
import AccessDecision.Proofs.Settings.Order

/-!
# The last source wins, field by field

Settings are what the last sources that set their fields give them, each field by itself (`loadSettings_eq`).

Merging works on each field by itself (`Layer.IsField`).  From this one step the value of a field after a run of
sources follows by induction over them, for all fields alike (`field_of_mergeSources`).
-/

namespace AccessDecision

/-! ## Definitions -/

/-- The error of a source that fails. -/
def Source.failure? (source : Source) : Option SettingsError :=
  match source.layer with
  | .error e => some e
  | .ok _ => none

/-- The value that a source gives to a field. -/
def Source.given? {α : Type} (field : Layer → Option α) (source : Source) : Option α :=
  source.layer.toOption.bind field

/-- The value that a field is given last. -/
def lastGiven? {α : Type} (field : Layer → Option α) (sources : List Source) : Option α :=
  sources.reverse.findSome? (Source.given? field)

/-- A field of layers on which merging works by itself: the layer on top decides if it sets the field. -/
structure Layer.IsField {α : Type} (field : Layer → Option α) : Prop where
  empty : field .empty = none
  merge : ∀ base above, field (base.merge above) = (field above).or (field base)

variable {α : Type} {field : Layer → Option α}

/-! ## Fields -/

section Fields

/-- A section of layers is merged field by field. -/
theorem mergeSection_bind {σ : Type} {merge : σ → σ → σ} {field : σ → Option α}
    (h : ∀ base above, field (merge base above) = (field above).or (field base)) (base above : Option σ) :
    (mergeSection merge base above).bind field = (above.bind field).or (base.bind field) := by
  cases base with
  | none => cases above <;> simp [mergeSection]
  | some base =>
    cases above with
    | none => simp [mergeSection]
    | some above => exact h base above

theorem Layer.isField_defaultMode? : Layer.IsField Layer.defaultMode? :=
  ⟨rfl, fun base above => mergeSection_bind (fun _ _ => rfl) base.decision above.decision⟩

theorem Layer.isField_level? : Layer.IsField Layer.level? :=
  ⟨rfl, fun base above => mergeSection_bind (fun _ _ => rfl) base.logging above.logging⟩

theorem Layer.isField_format? : Layer.IsField Layer.format? :=
  ⟨rfl, fun base above => mergeSection_bind (fun _ _ => rfl) base.logging above.logging⟩

end Fields

/-! ## Merging sources -/

section Merging

variable {base layer merged : Layer} {source : Source} {sources before after : List Source} {e : SettingsError}

theorem mergeSources_cons_of_error (h : source.layer = .error e) :
    mergeSources base (source :: sources) = .error e := by
  unfold mergeSources
  rw [List.foldlM_cons, h]
  rfl

theorem mergeSources_cons_of_ok (h : source.layer = .ok layer) :
    mergeSources base (source :: sources) = mergeSources (base.merge layer) sources := by
  unfold mergeSources
  rw [List.foldlM_cons, h]
  rfl

theorem Source.failure?_of_error (h : source.layer = .error e) : source.failure? = some e := by
  simp only [Source.failure?, h]

theorem Source.failure?_of_ok (h : source.layer = .ok layer) : source.failure? = none := by
  simp only [Source.failure?, h]

theorem Source.given?_of_ok (h : source.layer = .ok layer) : source.given? field = field layer := by
  simp [Source.given?, h, Except.toOption]

theorem lastGiven?_cons :
    lastGiven? field (source :: sources) = (lastGiven? field sources).or (source.given? field) := by
  unfold lastGiven?
  rw [List.reverse_cons, List.findSome?_append, List.findSome?_cons]
  cases source.given? field <;> rfl

theorem lastGiven?_append :
    lastGiven? field (before ++ after) = (lastGiven? field after).or (lastGiven? field before) := by
  unfold lastGiven?
  rw [List.reverse_append, List.findSome?_append]

/-- A source that does not set a field leaves the field to the others. -/
theorem lastGiven?_of_unset (h : source.given? field = none) :
    lastGiven? field (before ++ source :: after) = lastGiven? field (before ++ after) := by
  rw [lastGiven?_append, lastGiven?_append, lastGiven?_cons, h, Option.or_none]

/-- Merging ends at the first failure. -/
theorem mergeSources_eq_error_iff :
    mergeSources base sources = .error e ↔ sources.findSome? Source.failure? = some e := by
  induction sources generalizing base with
  | nil => constructor <;> intro h <;> cases h
  | cons source sources ih =>
    cases h : source.layer with
    | error e' => simp [mergeSources_cons_of_error h, Source.failure?_of_error h]
    | ok layer => simp [mergeSources_cons_of_ok h, Source.failure?_of_ok h, ih]

/-- **What a run of sources leaves of a field**: the value that it is given last, or else what it was before. -/
theorem field_of_mergeSources (hfield : Layer.IsField field) (h : mergeSources base sources = .ok merged) :
    field merged = (lastGiven? field sources).or (field base) := by
  induction sources generalizing base with
  | nil =>
    obtain rfl := Except.ok.inj h
    rfl
  | cons source sources ih =>
    cases hlayer : source.layer with
    | error e =>
      rw [mergeSources_cons_of_error hlayer] at h
      cases h
    | ok layer =>
      rw [mergeSources_cons_of_ok hlayer] at h
      -- the later sources are asked first, then this one, then what was there before
      rw [ih h, hfield.merge, lastGiven?_cons, Source.given?_of_ok hlayer, Option.or_assoc]

theorem loadSettings_eq (sources : List Source) :
    loadSettings sources =
      match (inOrder sources).findSome? Source.failure? with
      | some e => .error e
      | none => .ok {
          decision := ⟨(lastGiven? Layer.defaultMode? (inOrder sources)).getD .deny⟩
          logging := ⟨(lastGiven? Layer.level? (inOrder sources)).getD "info",
            (lastGiven? Layer.format? (inOrder sources)).getD .plain⟩ } := by
  unfold loadSettings
  cases h : mergeSources .empty (inOrder sources) with
  | error e =>
    rw [mergeSources_eq_error_iff.mp h]
    rfl
  | ok merged =>
    have hnone : (inOrder sources).findSome? Source.failure? = none := by
      cases hfound : (inOrder sources).findSome? Source.failure? with
      | none => rfl
      | some e =>
        rw [mergeSources_eq_error_iff.mpr hfound] at h
        cases h
    -- what the last source leaves of each field is what the settings are made of
    have hmode := field_of_mergeSources Layer.isField_defaultMode? h
    have hlevel := field_of_mergeSources Layer.isField_level? h
    have hformat := field_of_mergeSources Layer.isField_format? h
    rw [Layer.isField_defaultMode?.empty, Option.or_none] at hmode
    rw [Layer.isField_level?.empty, Option.or_none] at hlevel
    rw [Layer.isField_format?.empty, Option.or_none] at hformat
    rw [hnone, ← hmode, ← hlevel, ← hformat]
    rfl

theorem loadSettings_congr {sources' : List Source}
    (h : ∀ precedence, sourcesOf precedence sources' = sourcesOf precedence sources) :
    loadSettings sources' = loadSettings sources := by
  unfold loadSettings
  rw [inOrder_congr h]

/-- A source that does not fail changes nothing of a field that it does not set, wherever it is listed. -/
theorem findSome?_failure?_of_ok (h : source.layer = .ok layer) :
    (before ++ source :: after).findSome? Source.failure? = (before ++ after).findSome? Source.failure? := by
  rw [List.findSome?_append, List.findSome?_append, List.findSome?_cons, Source.failure?_of_ok h]

theorem map_decision_loadSettings (h : source.layer = .ok layer)
    (hunset : layer.decision = none ∨ layer.decision = some ⟨none⟩) :
    (loadSettings (before ++ source :: after)).map Settings.decision =
      (loadSettings (before ++ after)).map Settings.decision := by
  have hmode : layer.defaultMode? = none := by
    rcases hunset with hunset | hunset <;> simp [Layer.defaultMode?, hunset]
  obtain ⟨below, above, hwith, hwithout⟩ := inOrder_insert before after source
  rw [loadSettings_eq, loadSettings_eq, hwith, hwithout, findSome?_failure?_of_ok h,
    lastGiven?_of_unset ((Source.given?_of_ok h).trans hmode)]
  cases (below ++ above).findSome? Source.failure? <;> rfl

theorem map_logging_loadSettings (h : source.layer = .ok layer)
    (hunset : layer.logging = none ∨ layer.logging = some ⟨none, none⟩) :
    (loadSettings (before ++ source :: after)).map Settings.logging =
      (loadSettings (before ++ after)).map Settings.logging := by
  have hlevel : layer.level? = none := by
    rcases hunset with hunset | hunset <;> simp [Layer.level?, hunset]
  have hformat : layer.format? = none := by
    rcases hunset with hunset | hunset <;> simp [Layer.format?, hunset]
  obtain ⟨below, above, hwith, hwithout⟩ := inOrder_insert before after source
  rw [loadSettings_eq, loadSettings_eq, hwith, hwithout, findSome?_failure?_of_ok h,
    lastGiven?_of_unset ((Source.given?_of_ok h).trans hlevel),
    lastGiven?_of_unset ((Source.given?_of_ok h).trans hformat)]
  cases (below ++ above).findSome? Source.failure? <;> rfl

end Merging

/-! ## The settings that sources give -/

/-- **The last source wins, field by field.** Sources are taken in the one order by precedence in which those of
one precedence stand as they are listed.  The first failure in that order is the error; else each of the three
fields has the value that it is given last, or its default.

A source that sets nothing of a section leaves the section to the other sources, wherever it is listed.  That is
so where the section is missing or has no field set, which is how a document is read that leaves it out, gives
`null` for it, or does so for all of its fields.

Only the order of the sources of each one precedence matters. -/
theorem loadSettings_lastWins (sources : List Source) :
    ((inOrder sources).Perm sources ∧ ∀ order, InPrecedenceOrder sources order ↔ order = inOrder sources) ∧
      (loadSettings sources =
        match (inOrder sources).findSome? Source.failure? with
        | some e => .error e
        | none => .ok {
            decision := ⟨(lastGiven? Layer.defaultMode? (inOrder sources)).getD .deny⟩
            logging := ⟨(lastGiven? Layer.level? (inOrder sources)).getD "info",
              (lastGiven? Layer.format? (inOrder sources)).getD .plain⟩ }) ∧
      (∀ before source after layer, sources = before ++ source :: after → source.layer = .ok layer →
        (layer.decision = none ∨ layer.decision = some ⟨none⟩ →
          (loadSettings sources).map Settings.decision = (loadSettings (before ++ after)).map Settings.decision) ∧
        (layer.logging = none ∨ layer.logging = some ⟨none, none⟩ →
          (loadSettings sources).map Settings.logging = (loadSettings (before ++ after)).map Settings.logging)) ∧
      (∀ dialect d layer decision logging, Layer.ofDatum? dialect d = some layer →
        d.slots dialect ["decision", "logging"] = some [decision, logging] →
        (decision.LeavesUnset dialect ["default_mode"] ↔ layer.decision = none ∨ layer.decision = some ⟨none⟩) ∧
        (logging.LeavesUnset dialect ["level", "format"] ↔
          layer.logging = none ∨ layer.logging = some ⟨none, none⟩)) ∧
      ∀ sources', (∀ precedence, sourcesOf precedence sources' = sourcesOf precedence sources) →
        loadSettings sources' = loadSettings sources := by
  refine ⟨⟨inOrder_perm sources, fun order => inPrecedenceOrder_iff⟩, loadSettings_eq sources, ?_,
    fun dialect d layer decision logging => Layer.leavesUnset_iff_of_ofDatum?, fun sources' => loadSettings_congr⟩
  rintro before source after layer rfl hlayer
  exact ⟨map_decision_loadSettings hlayer, map_logging_loadSettings hlayer⟩

/-- An environment that is listed before a file still wins over it in the log level, and its decision section, in
which nothing is set, leaves the file's default mode in place.  A document with `null` for that section sets as
little. -/
theorem environment_wins_where_it_sets :
    let environment : Source := ⟨"environment", .environment, .ok ⟨some ⟨none⟩, some ⟨some "debug", none⟩⟩⟩
    let file : Source := ⟨"pdp-toml", .configFile, .ok ⟨some ⟨some .permit⟩, some ⟨some "warn", some .json⟩⟩⟩
    loadSettings [environment, file] = .ok ⟨⟨.permit⟩, ⟨"debug", .json⟩⟩ ∧
      loadSettings [file, environment] = loadSettings [environment, file] ∧
      (loadSettings [environment, file]).map Settings.decision = (loadSettings [file]).map Settings.decision ∧
      (Slot.given Datum.null).LeavesUnset .json ["default_mode"] := by
  intro environment file
  obtain ⟨-, hload, hunset, hdocument, hcongr⟩ := loadSettings_lastWins [environment, file]
  refine ⟨hload.trans rfl, hcongr [file, environment] ?_,
    (hunset [] environment [file] _ rfl rfl).1 (.inr rfl), ?_⟩
  · intro precedence
    cases precedence <;> rfl
  · exact (hdocument .json (.object [("decision", .null)]) ⟨none, none⟩ _ _ rfl rfl).1.mpr (.inl rfl)

end AccessDecision
