import Annotations.Config
import Annotations.Text.LetterCase

/-!
Overrides of single settings by variables. The name of a variable addresses one setting: after a
lead-in, the section and the field with two underscores in front of each.
-/
namespace Annotations

/-- A setting that a variable can address. -/
inductive Address where
  | cacheEnabled
  | maxMetaDepth
  | classesAsText
  | nestedAsStores
  | builtinSpaces
  | logEnabled
  | logLevel
  | logFormat
  | spanEvents
  | fileLineInfo
  | threadIds
  | includeTarget
  | metricsEnabled
  | globalLabel (name : String)
deriving DecidableEq, Repr

/-- The setting at a path. Labels are in lower case. -/
def Address.ofPath? : List String → Option Address
  | ["ENGINE", "CACHE_ENABLED"] => some .cacheEnabled
  | ["ENGINE", "MAX_META_DEPTH"] => some .maxMetaDepth
  | ["ENGINE", "CLASS_VALUES_AS_STRING"] => some .classesAsText
  | ["ENGINE", "NESTED_ANNOTATIONS_AS_MAP"] => some .nestedAsStores
  | ["ENGINE", "BUILTIN_NAMESPACES"] => some .builtinSpaces
  | ["LOGGING", "ENABLED"] => some .logEnabled
  | ["LOGGING", "LEVEL"] => some .logLevel
  | ["LOGGING", "FORMAT"] => some .logFormat
  | ["LOGGING", "SPAN_EVENTS"] => some .spanEvents
  | ["LOGGING", "FILE_LINE_INFO"] => some .fileLineInfo
  | ["LOGGING", "THREAD_IDS"] => some .threadIds
  | ["LOGGING", "INCLUDE_TARGET"] => some .includeTarget
  | ["METRICS", "ENABLED"] => some .metricsEnabled
  | ["METRICS", "GLOBAL_LABELS", label] => some (.globalLabel (Text.lower label))
  | _ => none

namespace Override

/-- A flag by one of its words, in any case. -/
def flag? (text : String) : Option Bool :=
  match Text.lower text with
  | "true" | "1" | "yes" | "on" => some true
  | "false" | "0" | "no" | "off" => some false
  | _ => none

/-- A number of a machine word in decimal digits, with or without a plus sign. -/
def word? (text : String) : Option Nat :=
  let digits := match text.toList with
    | '+' :: rest => rest
    | chars => chars
  if digits.isEmpty || !digits.all (Text.isDigit 10) then none
  else
    let number := Text.number 10 digits
    if number < UInt64.size then some number else none

/-- The namespaces between commas, without white space around them; empty ones do not count. -/
def spaces (text : String) : List String :=
  ((Filter.pieces text.toList).map Text.trim).filterMap fun piece =>
    if piece.isEmpty then none else some (String.ofList piece)

/-- What is wrong with a text, if it gives no value. -/
def expect {α : Type} (what : String) : Option α → Except String α
  | some value => .ok value
  | none => .error ("expected " ++ what)

/-- Puts a text into one setting. -/
def assign (config : Config) (text : String) : Address → Except String Config
  | .cacheEnabled => do
    return { config with engine.cacheEnabled := ← expect "boolean" (flag? text) }
  | .maxMetaDepth => do
    return { config with engine.maxMetaDepth := ← expect "integer" (word? text) }
  | .classesAsText => do
    return { config with engine.classesAsText := ← expect "boolean" (flag? text) }
  | .nestedAsStores => do
    return { config with engine.nestedAsStores := ← expect "boolean" (flag? text) }
  | .builtinSpaces => return { config with engine.builtinSpaces := spaces text }
  | .logEnabled => do
    return { config with logging.enabled := ← expect "boolean" (flag? text) }
  | .logLevel => return { config with logging.level := text }
  | .logFormat => do
    let format ← expect "'json', 'pretty', or 'compact'" (LogFormat.ofText? text)
    return { config with logging.format := format }
  | .spanEvents => do
    return { config with logging.spanEvents := ← expect "boolean" (flag? text) }
  | .fileLineInfo => do
    return { config with logging.fileLineInfo := ← expect "boolean" (flag? text) }
  | .threadIds => do
    return { config with logging.threadIds := ← expect "boolean" (flag? text) }
  | .includeTarget => do
    return { config with logging.includeTarget := ← expect "boolean" (flag? text) }
  | .metricsEnabled => do
    return { config with metrics.enabled := ← expect "boolean" (flag? text) }
  | .globalLabel name => return { config with metrics := config.metrics.withLabel name text }

/-- Splits at every two underscores, from the left. -/
def parts : List Char → List (List Char)
  | [] => [[]]
  | '_' :: '_' :: rest => [] :: parts rest
  | c :: rest =>
    match parts rest with
    | [] => [[c]]
    | first :: others => (c :: first) :: others

/-- The path a variable addresses under a lead-in, if it starts with that. -/
def path? (lead name : String) : Option (List String) :=
  let start := lead.toList ++ ['_', '_']
  if start.isPrefixOf name.toList then
    some ((parts (name.toList.drop start.length)).map String.ofList)
  else none

/-- Applies one variable; one without the lead-in changes nothing. -/
def apply (lead : String) (config : Config) (given : String × String) : Except ConfigError Config :=
  match path? lead given.1 with
  | none => .ok config
  | some path =>
    match Address.ofPath? path with
    | some address =>
      (assign config given.2 address).mapError fun reason => .badVariable given.1 reason
    | none => .error (.unknownField ("__".intercalate path.tail) (path.headD ""))

/-- Applies variables one after another. -/
def applyAll (lead : String) (config : Config) (vars : List (String × String)) :
    Except ConfigError Config :=
  vars.foldlM (apply lead) config

end Override
end Annotations
