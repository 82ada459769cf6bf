import Annotations.Document
import Annotations.Logging
import Annotations.Metrics
import Annotations.Settings

/-!
Sections of a configuration as they are taken from documents. What a section leaves out keeps its
default; a name it does not have is refused.
-/
namespace Annotations
open Document (field)

/-- Engine settings from a document. -/
def Settings.ofDocument? (style : Document.Notation) (document : Document) : Option Settings := do
  let fields ← document.section? style
    ["builtin_namespaces", "cache_enabled", "class_values_as_string", "nested_annotations_as_map",
      "max_meta_depth"]
  let fallback : Settings := {}
  return {
    builtinSpaces := ← field fields "builtin_namespaces" Document.texts? fallback.builtinSpaces
    cacheEnabled := ← field fields "cache_enabled" Document.boolean? fallback.cacheEnabled
    classesAsText := ← field fields "class_values_as_string" Document.boolean? fallback.classesAsText
    nestedAsStores :=
      ← field fields "nested_annotations_as_map" Document.boolean? fallback.nestedAsStores
    maxMetaDepth := ← field fields "max_meta_depth" Document.word? fallback.maxMetaDepth }

/-- A log format from a document; its name is written in lower case. -/
def LogFormat.ofDocument? (style : Document.Notation) (document : Document) : Option LogFormat :=
  (document.choice? style).bind named?

/-- Log settings from a document. -/
def LogConfig.ofDocument? (style : Document.Notation) (document : Document) : Option LogConfig := do
  let fields ← document.section? style
    ["enabled", "level", "format", "span_events", "file_line_info", "thread_ids", "include_target"]
  let fallback : LogConfig := {}
  return {
    enabled := ← field fields "enabled" Document.boolean? fallback.enabled
    level := ← field fields "level" Document.text? fallback.level
    format := ← field fields "format" (LogFormat.ofDocument? style) fallback.format
    spanEvents := ← field fields "span_events" Document.boolean? fallback.spanEvents
    fileLineInfo := ← field fields "file_line_info" Document.boolean? fallback.fileLineInfo
    threadIds := ← field fields "thread_ids" Document.boolean? fallback.threadIds
    includeTarget := ← field fields "include_target" Document.boolean? fallback.includeTarget }

/-- Metrics settings from a document. Of labels with one name the last one counts. -/
def MetricsConfig.ofDocument? (style : Document.Notation) (document : Document) : Option MetricsConfig := do
  let fields ← document.section? style ["enabled", "global_labels"]
  let fallback : MetricsConfig := {}
  let labels ← field fields "global_labels" Document.textEntries? fallback.globalLabels
  return {
    enabled := ← field fields "enabled" Document.boolean? fallback.enabled
    globalLabels := labels.foldl (fun sorted label => Entries.putSorted sorted label.1 label.2) [] }

end Annotations
