import AccessDecision.Settings.Basic

/-!
# Sources of settings

A `Source` yields a layer or fails.  `loadSettings` takes sources in the order of their precedence, and in the
order in which they are listed where precedences are equal.  The first failure ends loading; otherwise the layers
are merged in that order.
-/

namespace AccessDecision

/-- The rank of a source: a later one overrides an earlier one. -/
inductive Precedence where
  | defaults
  | configFile
  | environment
  deriving DecidableEq, Inhabited, Repr

/-- The number of a precedence; a greater one is applied later. -/
def Precedence.rank : Precedence → Nat
  | defaults => 10
  | configFile => 20
  | environment => 50

/-- All precedences, in ascending order of their numbers. -/
def Precedence.ascending : List Precedence := [defaults, configFile, environment]

/-- Why a source fails. -/
inductive SettingsError where
  /-- A variable has a value that cannot be read. -/
  | invalidValue (key message : String)
  /-- The text of a file is no layer. -/
  | malformedFile (path : String)
  /-- A file is there and its text cannot be had. -/
  | unreadableFile (path : String)
  deriving DecidableEq, Repr

/-- The error in words. For a file the program goes on, after a colon, with what the file system or the parser
says, which is left out here. -/
def SettingsError.message : SettingsError → String
  | invalidValue key message => s!"Invalid value for {key}: {message}"
  | malformedFile path => s!"Failed to parse TOML config at {path}"
  | unreadableFile path => s!"Failed to read config file {path}"

/-- Where a layer comes from. -/
structure Source where
  name : String
  precedence : Precedence
  layer : Except SettingsError Layer

/-- The source that sets nothing. -/
def Source.defaults : Source := ⟨"defaults", .defaults, .ok .empty⟩

/-- Sources in the order in which they are applied. Those of one precedence keep their order. -/
def inOrder (sources : List Source) : List Source :=
  Precedence.ascending.flatMap fun precedence => sources.filter (·.precedence == precedence)

/-- A layer with those of further sources merged into it, unless one of them fails. -/
def mergeSources (base : Layer) (sources : List Source) : Except SettingsError Layer :=
  sources.foldlM (fun merged source => do return merged.merge (← source.layer)) base

/-- The settings that sources give. -/
def loadSettings (sources : List Source) : Except SettingsError Settings :=
  (mergeSources .empty (inOrder sources)).map Layer.toSettings

end AccessDecision
