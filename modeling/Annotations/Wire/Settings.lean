import Annotations.Config.Loader
import Annotations.Wire

/-!
Settings and configurations as documents, and the calls on a loader.
-/
namespace Annotations.Wire
open Document (texts)

/-! ## Writing -/

def ofSettings (settings : Settings) : Document :=
  .table [("builtin_namespaces", texts settings.builtinSpaces),
    ("cache_enabled", .boolean settings.cacheEnabled),
    ("class_values_as_string", .boolean settings.classesAsText),
    ("nested_annotations_as_map", .boolean settings.nestedAsStores),
    ("max_meta_depth", .whole settings.maxMetaDepth)]

def ofLogConfig (config : LogConfig) : Document :=
  .table [("enabled", .boolean config.enabled), ("level", .text config.level),
    ("format", .text config.format.name), ("span_events", .boolean config.spanEvents),
    ("file_line_info", .boolean config.fileLineInfo), ("thread_ids", .boolean config.threadIds),
    ("include_target", .boolean config.includeTarget)]

def ofMetricsConfig (config : MetricsConfig) : Document :=
  .table [("enabled", .boolean config.enabled),
    ("global_labels", .table (config.globalLabels.map fun label => (label.1, .text label.2)))]

def ofTelemetryConfig (config : TelemetryConfig) : Document :=
  .table [("logging", ofLogConfig config.logging), ("metrics", ofMetricsConfig config.metrics)]

def ofConfig (config : Config) : Document :=
  .table [("engine", ofSettings config.engine), ("logging", ofLogConfig config.logging),
    ("metrics", ofMetricsConfig config.metrics)]

/-! ## Reading -/

/-- A section read from a text in JSON. -/
def sectionOf? {α : Type} (read : Document.Notation → Document → Option α) (text : String) : Option α :=
  (Document.Json.ofText? text).bind (read .json)

/-- A section under a name of a document, or its default where it is left out. -/
def sectionAt? {α : Type} (read : Document.Notation → Document → Option α) (document : Document)
    (name : String) (fallback : α) : Option α :=
  match field? document name with
  | some given => read .json given
  | none => some fallback

def telemetryAt? (document : Document) : Option TelemetryConfig := do
  return {
    logging := ← sectionAt? LogConfig.ofDocument? document "logging" {}
    metrics := ← sectionAt? MetricsConfig.ofDocument? document "metrics" {} }

def configAt? (document : Document) : Option Config := do
  let telemetry ← telemetryAt? document
  return {
    engine := ← sectionAt? Settings.ofDocument? document "engine" {}
    logging := telemetry.logging
    metrics := telemetry.metrics }

/-- The bytes that pairs of hexadecimal digits write. -/
def bytes : List Char → List UInt8
  | a :: b :: rest => UInt8.ofNat (Text.number 16 [a, b]) :: bytes rest
  | _ => []

/-- What a file holds: a text, bytes in hexadecimal digits, or nothing for a folder. -/
def readContent : Document → Decode FileContent
  | .null => return .folder
  | .text content => return .text content
  | other => do
    let held := ByteArray.mk (bytes (← text other "hex").toList).toArray
    return match String.fromUTF8? held with
      | some content => .text content
      | none => .binary

def readFile (document : Document) : Decode (String × FileContent) := do
  let (path, content) ← asPair document
  return (← asText path, ← readContent content)

def readSurroundings (document : Document) : Decode Surroundings := do
  return {
    files := Files.ofList (← listOf readFile document "files")
    env := Entries.ofPairs (← listOf asTextPair document "env") }

def readLayer (document : Document) : Decode Layer := do
  match ← text document "do" with
  | "defaults" => return .defaults
  | "development" => return .development
  | "production" => return .production
  | "string" => return .text (← text document "content") (← text document "format")
  | "file" => return .file (← text document "path")
  | "optional_file" => return .optionalFile (← text document "path")
  | "dotenv" => return .envFile
  | "dotenv_file" => return .envFileAt (← text document "path")
  | "env_prefix" => return .lead (← text document "prefix")
  | "vars" => return .vars (← listOf asTextPair document "vars")
  | other => throw ("no layer " ++ other)

end Annotations.Wire
