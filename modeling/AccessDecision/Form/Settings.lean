import AccessDecision.Form.Policy
import AccessDecision.Settings.Basic

/-!
# The written form of settings

A layer may leave out any section and any field, or give `null` for it; a field that it leaves out is written as
`null`.  Complete sections must give all of their fields.
-/

namespace AccessDecision

/-- The written names of the log formats. -/
def LogFormat.words : List (String × LogFormat) := [(plain.name, plain), (json.name, json)]

/-- Reads a log format. -/
def LogFormat.ofDatum? (dialect : Dialect) (d : Datum) : Option LogFormat := word? dialect LogFormat.words d

/-- Writes a log format. -/
def LogFormat.toDatum (format : LogFormat) : Datum := .text format.name

/-- Writes a value that may be absent. -/
def orNull (d : Option Datum) : Datum := d.getD .null

/-! ### Layers -/

/-- Reads a layer of decision settings. -/
def DecisionLayer.ofDatum? (dialect : Dialect) (d : Datum) : Option DecisionLayer := do
  let [defaultMode] ← d.slots dialect ["default_mode"] | none
  return ⟨← defaultMode.optional (Effect.ofDatum? dialect)⟩

/-- Writes a layer of decision settings. -/
def DecisionLayer.toDatum (layer : DecisionLayer) : Datum :=
  .object [("default_mode", orNull (layer.defaultMode.map Effect.toDatum))]

/-- Reads a layer of log settings. -/
def LoggingLayer.ofDatum? (dialect : Dialect) (d : Datum) : Option LoggingLayer := do
  let [level, format] ← d.slots dialect ["level", "format"] | none
  return ⟨← level.optional Datum.text?, ← format.optional (LogFormat.ofDatum? dialect)⟩

/-- Writes a layer of log settings. -/
def LoggingLayer.toDatum (layer : LoggingLayer) : Datum :=
  .object [("level", orNull (layer.level.map .text)), ("format", orNull (layer.format.map LogFormat.toDatum))]

/-- Reads a layer. -/
def Layer.ofDatum? (dialect : Dialect) (d : Datum) : Option Layer := do
  let [decision, logging] ← d.slots dialect ["decision", "logging"] | none
  return ⟨← decision.orElse (nullable (DecisionLayer.ofDatum? dialect)) none,
    ← logging.orElse (nullable (LoggingLayer.ofDatum? dialect)) none⟩

/-- Writes a layer. -/
def Layer.toDatum (layer : Layer) : Datum :=
  .object [("decision", orNull (layer.decision.map DecisionLayer.toDatum)),
    ("logging", orNull (layer.logging.map LoggingLayer.toDatum))]

/-! ### Complete sections -/

/-- Reads decision settings. -/
def DecisionSettings.ofDatum? (dialect : Dialect) (d : Datum) : Option DecisionSettings := do
  let [defaultMode] ← d.slots dialect ["default_mode"] | none
  return ⟨← defaultMode.required (Effect.ofDatum? dialect)⟩

/-- Writes decision settings. -/
def DecisionSettings.toDatum (settings : DecisionSettings) : Datum :=
  .object [("default_mode", settings.defaultMode.toDatum)]

/-- Reads log settings. -/
def LoggingSettings.ofDatum? (dialect : Dialect) (d : Datum) : Option LoggingSettings := do
  let [level, format] ← d.slots dialect ["level", "format"] | none
  return ⟨← level.required Datum.text?, ← format.required (LogFormat.ofDatum? dialect)⟩

/-- Writes log settings. -/
def LoggingSettings.toDatum (settings : LoggingSettings) : Datum :=
  .object [("level", .text settings.level), ("format", settings.format.toDatum)]

/-- Writes settings. -/
def Settings.toDatum (settings : Settings) : Datum :=
  .object [("decision", settings.decision.toDatum), ("logging", settings.logging.toDatum)]

end AccessDecision
