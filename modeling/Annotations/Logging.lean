/-!
Settings of the log output.
-/
namespace Annotations

inductive LogFormat where
  | json
  | pretty
  | compact
deriving DecidableEq, Repr, Inhabited

namespace LogFormat

def name : LogFormat → String
  | .json => "json"
  | .pretty => "pretty"
  | .compact => "compact"

/-- The format of a name. -/
def named? : String → Option LogFormat
  | "json" => some .json
  | "pretty" => some .pretty
  | "compact" => some .compact
  | _ => none

/-- The format of a name in any case of its letters, all of which are ASCII. -/
def ofText? (text : String) : Option LogFormat := named? text.toLower

end LogFormat

structure LogConfig where
  enabled : Bool := true
  /-- Filter directives. -/
  level : String := "info"
  format : LogFormat := .json
  spanEvents : Bool := false
  fileLineInfo : Bool := false
  threadIds : Bool := false
  includeTarget : Bool := true
deriving DecidableEq, Repr, Inhabited

namespace LogConfig

/-- Readable output in detail. -/
def development : LogConfig :=
  { level := "debug", format := .pretty, spanEvents := true, fileLineInfo := true }

def production : LogConfig := {}

end LogConfig
end Annotations
