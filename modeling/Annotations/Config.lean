import Annotations.Config.Sections
import Annotations.Telemetry
import Annotations.Text.Quoted

/-!
The configuration of an engine, its log output and its metrics.
-/
namespace Annotations

inductive ConfigError where
  | fileNotFound (path : String)
  | unreadable (path : String)
  | badToml
  | badJson
  | badEnvFile
  | unknownField (field part : String)
  | invalidValue (field reason : String)
  | badVariable (name reason : String)
  | invalid (reason : String)
deriving DecidableEq, Repr

namespace ConfigError

/-- The message, for those errors whose text does not come from the reader of a file format. -/
def message? : ConfigError → Option String
  | .fileNotFound path => some ("configuration file not found: " ++ path)
  | .unreadable path => some ("failed to read configuration file: " ++ path)
  | .badToml | .badJson | .badEnvFile => none
  | .unknownField field part =>
    some ("unknown configuration field: " ++ field ++ " in section " ++ part)
  | .invalidValue field reason => some ("invalid configuration value for " ++ field ++ ": " ++ reason)
  | .badVariable name reason =>
    some ("failed to parse environment variable " ++ name ++ ": " ++ reason)
  | .invalid reason => some ("configuration validation failed: " ++ reason)

end ConfigError

structure Config where
  engine : Settings := {}
  logging : LogConfig := {}
  metrics : MetricsConfig := {}
deriving DecidableEq, Repr, Inhabited

namespace Config

/-- Readable log output in detail, no metrics. -/
def development : Config := { logging := .development, metrics := { enabled := false } }

/-- Log output for machines, with metrics. -/
def production : Config := { logging := .production }

def telemetry (config : Config) : TelemetryConfig :=
  { logging := config.logging, metrics := config.metrics }

/-- A configuration from a document. A section left out keeps its defaults. -/
def ofDocument? (style : Document.Notation) (document : Document) : Option Config := do
  let fields ← document.section? style ["engine", "logging", "metrics"]
  let fallback : Config := {}
  return {
    engine := ← Document.field fields "engine" (Settings.ofDocument? style) fallback.engine
    logging := ← Document.field fields "logging" (LogConfig.ofDocument? style) fallback.logging
    metrics := ← Document.field fields "metrics" (MetricsConfig.ofDocument? style) fallback.metrics }

/-- Whether a namespace is empty or ends in a dot. -/
def isBadSpace (space : String) : Bool := space.isEmpty || space.toList.getLast? == some '.'

/-- Whether a name is an ASCII letter or underscore followed by those and digits. -/
def isLabelName (name : String) : Bool :=
  match name.toList with
  | [] => false
  | first :: rest =>
    (first.isAlpha || first == '_') && rest.all fun c => c.isAlphanum || c == '_'

/-- Fails with the first item for which a test holds. -/
def refuse (test : String → Bool) (field what : String) (items : List String) : Except ConfigError Unit :=
  match items.find? test with
  | some item => .error (.invalidValue field (what ++ Text.Quoted.encode item))
  | none => .ok ()

def checkDepth (config : Config) : Except ConfigError Unit :=
  if config.engine.maxMetaDepth = 0 then
    .error (.invalidValue "engine.max_meta_depth" "must be at least 1")
  else .ok ()

/-- The level counts only where the log output is on. -/
def checkLevel (config : Config) : Except ConfigError Unit :=
  if config.logging.enabled then
    config.logging.validate.mapError fun error => .invalidValue "logging.level" error.message
  else .ok ()

/-- Checks the depth, the namespaces, the log level and the labels, in this order. -/
def validate (config : Config) : Except ConfigError Unit := do
  config.checkDepth
  refuse isBadSpace "engine.builtin_namespaces" "invalid namespace: " config.engine.builtinSpaces
  config.checkLevel
  refuse (!isLabelName ·) "metrics.global_labels" "invalid label name: " config.metrics.globalLabels.names

/-- The configuration itself, if it is valid. -/
def validated (config : Config) : Except ConfigError Config := do
  config.validate
  return config

end Config
end Annotations
