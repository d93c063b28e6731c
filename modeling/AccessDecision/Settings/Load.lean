import AccessDecision.Datum.Toml.Reader
import AccessDecision.Form.Settings
import AccessDecision.Settings.Source

/-!
# Loading settings

Settings come from a TOML file and from environment variables.  Neither has to be there: a missing file sets
nothing, and neither does a variable that is empty or is no UTF-8 text.
-/

namespace AccessDecision

/-! ### Files -/

/-- What stands at a path. -/
inductive FileEntry where
  | missing
  /-- Something is there that cannot be read as a file, such as a directory. -/
  | unreadable
  | file (bytes : ByteArray)
  deriving Inhabited

/-- The text of a file, if there is a file and it is UTF-8. -/
def FileEntry.text? : FileEntry → Option String
  | .file bytes => String.fromUTF8? bytes
  | _ => none

/-- The file that is read unless another one is named. -/
def systemSettingsPath : String := "/etc/warden/pdp.toml"

/-- The layer of a settings file. -/
def fileLayer (path : String) (entry : FileEntry) : Except SettingsError Layer :=
  match entry, entry.text? with
  | .missing, _ => .ok .empty
  | _, none => .error (.unreadableFile path)
  | _, some text =>
    match (Datum.Toml.read? text).bind (Layer.ofDatum? .toml) with
    | some layer => .ok layer
    | none => .error (.malformedFile path)

/-- A settings file as a source. -/
def Source.file (path : String) (entry : FileEntry) : Source :=
  ⟨"pdp-toml", .configFile, fileLayer path entry⟩

/-! ### Variables -/

/-- The bytes of the environment variables that are set. -/
abbrev Environment := String → Option ByteArray

/-- The variable of the default mode. -/
def defaultModeVariable : String := "WARDEN_PDP_DEFAULT_MODE"

/-- The variable of the log level. -/
def logLevelVariable : String := "WARDEN_PDP_LOG_LEVEL"

/-- The variable of the log format. -/
def logFormatVariable : String := "WARDEN_PDP_LOG_FORMAT"

/-- The text of a variable, unless it is empty or no UTF-8 text. -/
def Environment.text? (environment : Environment) (name : String) : Option String :=
  ((environment name).bind String.fromUTF8?).filter fun text => !text.isEmpty

/-- The value of a variable, read without the blank characters at its ends. -/
def Environment.value? {α : Type} (environment : Environment) (name : String) (read : String → Except String α) :
    Except SettingsError (Option α) :=
  match environment.text? name with
  | none => .ok none
  | some text =>
    match read (Text.trim text) with
    | .ok value => .ok (some value)
    | .error message => .error (.invalidValue name message)

/-- The layer of the environment, which has both sections. The level is taken as it stands. -/
def Environment.layer (environment : Environment) : Except SettingsError Layer := do
  let defaultMode ← environment.value? defaultModeVariable Effect.parse
  let format ← environment.value? logFormatVariable LogFormat.parse
  return ⟨some ⟨defaultMode⟩, some ⟨environment.text? logLevelVariable, format⟩⟩

/-- The environment as a source. -/
def Source.environment (environment : Environment) : Source :=
  ⟨"environment", .environment, environment.layer⟩

/-- The settings from a file and the environment. -/
def Settings.load (path : String) (entry : FileEntry) (environment : Environment) :
    Except SettingsError Settings :=
  loadSettings [.defaults, .file path entry, .environment environment]

end AccessDecision
