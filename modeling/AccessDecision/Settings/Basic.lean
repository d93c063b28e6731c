import AccessDecision.Policy.Basic

/-!
# Settings

`Settings` say which effect was configured as the default mode and how the program logs.  They are merged from
layers.  A `Layer` leaves out whatever it does not set: a field, or a whole section.  Merging works on each field
by itself, so a section without any field changes nothing.
-/

namespace AccessDecision

/-- The format of log lines. -/
inductive LogFormat where
  | plain
  | json
  deriving DecidableEq, Inhabited, Repr

namespace LogFormat

/-- The written name of a format. -/
def name : LogFormat → String
  | plain => "plain"
  | json => "json"

/-- Reads a format from a setting, in any case of the ASCII letters; `text` is a second name of `plain`. -/
def parse (s : String) : Except String LogFormat :=
  let lower := Text.asciiLower s
  if lower = plain.name ∨ lower = "text" then .ok plain
  else if lower = json.name then .ok json
  else .error s!"unknown log format '{lower}'"

end LogFormat

/-- The settings of decisions. -/
structure DecisionSettings where
  /-- The configured default mode; a decision point resolves it before use. -/
  defaultMode : Effect
  deriving DecidableEq, Inhabited, Repr

/-- The settings of the log. -/
structure LoggingSettings where
  level : String
  format : LogFormat
  deriving DecidableEq, Inhabited, Repr

/-- All settings. -/
structure Settings where
  decision : DecisionSettings
  logging : LoggingSettings
  deriving DecidableEq, Inhabited, Repr

/-- What a layer sets of the settings of decisions. -/
structure DecisionLayer where
  defaultMode : Option Effect
  deriving DecidableEq, Inhabited, Repr

/-- What a layer sets of the settings of the log. -/
structure LoggingLayer where
  level : Option String
  format : Option LogFormat
  deriving DecidableEq, Inhabited, Repr

/-- What one source sets; it may leave out sections. -/
structure Layer where
  decision : Option DecisionLayer
  logging : Option LoggingLayer
  deriving DecidableEq, Inhabited, Repr

/-! ### Merging -/

/-- A layer of decision settings under a second one, whose fields win. -/
def DecisionLayer.merge (base above : DecisionLayer) : DecisionLayer :=
  ⟨above.defaultMode.or base.defaultMode⟩

/-- A layer of log settings under a second one, whose fields win. -/
def LoggingLayer.merge (base above : LoggingLayer) : LoggingLayer :=
  ⟨above.level.or base.level, above.format.or base.format⟩

/-- A section under a second one; a section that is left out changes nothing. -/
def mergeSection {α : Type} (merge : α → α → α) : Option α → Option α → Option α
  | some base, some above => some (merge base above)
  | base, above => above.or base

namespace Layer

/-- The layer that sets nothing. -/
def empty : Layer := ⟨none, none⟩

/-- A layer under a second one, whose fields win. -/
def merge (base above : Layer) : Layer :=
  ⟨mergeSection DecisionLayer.merge base.decision above.decision,
    mergeSection LoggingLayer.merge base.logging above.logging⟩

/-- The default mode that a layer sets. -/
def defaultMode? (layer : Layer) : Option Effect := layer.decision.bind DecisionLayer.defaultMode

/-- The log level that a layer sets. -/
def level? (layer : Layer) : Option String := layer.logging.bind LoggingLayer.level

/-- The log format that a layer sets. -/
def format? (layer : Layer) : Option LogFormat := layer.logging.bind LoggingLayer.format

end Layer

/-! ### Defaults -/

/-- The settings that apply where nothing is set: denial, level `info`, plain lines. -/
def Settings.default : Settings := ⟨⟨.deny⟩, ⟨"info", .plain⟩⟩

/-- The settings that a layer gives, with defaults for what it does not set. -/
def Layer.toSettings (layer : Layer) : Settings where
  decision := ⟨layer.defaultMode?.getD Settings.default.decision.defaultMode⟩
  logging := ⟨layer.level?.getD Settings.default.logging.level,
    layer.format?.getD Settings.default.logging.format⟩

end AccessDecision
