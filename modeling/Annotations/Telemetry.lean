import Annotations.Logging
import Annotations.Logging.Filter
import Annotations.Metrics

/-!
Telemetry of a process: log output and metrics are switched on once each, and from then on every
event counts in the metrics of the process.
-/
namespace Annotations

structure TelemetryConfig where
  logging : LogConfig := {}
  metrics : MetricsConfig := {}
deriving DecidableEq, Repr, Inhabited

inductive TelemetryError where
  | metricsInit (reason : String)
  | loggingInit (reason : String)
  | invalidConfig (reason : String)
deriving DecidableEq, Repr

def TelemetryError.message : TelemetryError → String
  | .metricsInit reason => "Failed to initialize metrics: " ++ reason
  | .loggingInit reason => "Failed to initialize logging: " ++ reason
  | .invalidConfig reason => "Invalid configuration: " ++ reason

/-- A log format by its name. -/
def LogFormat.parse (text : String) : Except TelemetryError LogFormat :=
  match ofText? text with
  | some format => .ok format
  | none => .error (.invalidConfig ("unknown log format: " ++ text.toLower))

/-- Checks a filter; `lead` stands in front of the reason. -/
def checkFilter (lead filter : String) : Except TelemetryError Unit :=
  (Filter.check filter).mapError fun fault => .loggingInit (lead ++ fault.message)

def LogConfig.validate (config : LogConfig) : Except TelemetryError Unit := checkFilter "" config.level

/-- A telemetry configuration in the making. -/
structure TelemetryDraft where
  serviceName : Option String := none
  logging : Option LogConfig := none
  metrics : Option MetricsConfig := none
deriving DecidableEq, Repr, Inhabited

namespace TelemetryDraft

def withServiceName (draft : TelemetryDraft) (name : String) : TelemetryDraft :=
  { draft with serviceName := some name }

def withLogging (draft : TelemetryDraft) (config : LogConfig) : TelemetryDraft :=
  { draft with logging := some config }

def withMetrics (draft : TelemetryDraft) (config : MetricsConfig) : TelemetryDraft :=
  { draft with metrics := some config }

def withLevel (draft : TelemetryDraft) (level : String) : TelemetryDraft :=
  { draft with logging := some { draft.logging.getD {} with level } }

def withFormat (draft : TelemetryDraft) (format : LogFormat) : TelemetryDraft :=
  { draft with logging := some { draft.logging.getD {} with format } }

/-- The finished configuration; the service name becomes a label on every counter. -/
def build (draft : TelemetryDraft) : TelemetryConfig :=
  let metrics := draft.metrics.getD {}
  { logging := draft.logging.getD {}
    metrics := match draft.serviceName with
      | some name => metrics.withLabel "service" name
      | none => metrics }

end TelemetryDraft

/-- What a process has switched on. -/
structure Telemetry where
  logging : Bool := false
  /-- The labels on every counter, once metrics are on. -/
  metrics : Option (Entries String) := none
  /-- The events counted so far, latest first. -/
  events : List Event := []
deriving Inhabited

namespace Telemetry

/-- Switches the log output on. -/
def initLogging (config : LogConfig) : ExceptT TelemetryError (StateM Telemetry) Unit := do
  if !config.enabled then return
  match checkFilter "Invalid log level: " config.level with
  | .error error => throw error
  | .ok () =>
    if (← get).logging then
      throw (.loggingInit "a global default trace dispatcher has already been set")
    modify fun process => { process with logging := true }

/-- Switches metrics on. -/
def initMetrics (config : MetricsConfig) : ExceptT TelemetryError (StateM Telemetry) Unit := do
  if !config.enabled then return
  if (← get).metrics.isSome then
    throw (.metricsInit
      "attempted to set a recorder after the metrics system was already initialized")
  modify fun process => { process with metrics := some config.globalLabels }

/-- Switches both on; where the log output fails, metrics stay as they are. -/
def init (config : TelemetryConfig) : ExceptT TelemetryError (StateM Telemetry) Unit := do
  initLogging config.logging
  initMetrics config.metrics

/-- Counts events, latest first, if metrics are on. -/
def count (process : Telemetry) (events : List Event) : Telemetry :=
  if process.metrics.isSome then { process with events := events ++ process.events } else process

/-- The lines that show the metrics of the process, which are all described. -/
def lines? (process : Telemetry) : Option (List String) :=
  process.metrics.map fun labels => Metrics.lines labels true process.events

end Telemetry
end Annotations
