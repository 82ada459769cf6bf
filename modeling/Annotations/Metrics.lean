import Annotations.Entries
import Annotations.Event

/-!
Counters of an engine and the text that shows them: for each counter a help line, if it is
described, a type line, and a line for every combination of labels that was counted.
-/
namespace Annotations

structure MetricsConfig where
  enabled : Bool := true
  /-- Labels on every counter, in name order. -/
  globalLabels : Entries String := []
deriving DecidableEq, Repr, Inhabited

/-- Sets a label on every counter. -/
def MetricsConfig.withLabel (config : MetricsConfig) (name value : String) : MetricsConfig :=
  { config with globalLabels := config.globalLabels.putSorted name value }

namespace Metrics

inductive Counter where
  | lookups
  | failures
deriving DecidableEq, Repr

namespace Counter

def all : List Counter := [.lookups, .failures]

def name : Counter → String
  | .lookups => "stele_cache_lookups_total"
  | .failures => "stele_introspection_failures_total"

def help : Counter → String
  | .lookups => "Engine cache lookups by cache and outcome"
  | .failures => "Annotation introspection failures recovered during a search"

end Counter

/-- The counter an event counts in, and its labels. -/
def sample : Event → Counter × Entries String
  | .lookup cache hit => (.lookups, [("cache", cache.label), ("outcome", if hit then "hit" else "miss")])
  | .failure elementKind => (.failures, [("element_kind", elementKind)])

/-- The combinations of labels that were counted in a counter, with their counts. -/
def tally (counter : Counter) (events : List Event) : List (Entries String × Nat) :=
  let labels := events.filterMap fun event =>
    if (sample event).1 = counter then some (sample event).2 else none
  labels.eraseDups.map fun found => (found, labels.countP (· == found))

/-- A label name keeps its ASCII letters, digits and underscores, a digit not in front. -/
def labelName (name : String) : String :=
  match name.toList with
  | [] => ""
  | first :: rest =>
    let keep (c : Char) := if c.isAlphanum || c == '_' then c else '_'
    String.ofList ((if first.isDigit then '_' else keep first) :: rest.map keep)

/-- A label value with quotes, newlines and backslashes escaped. A backslash is held back: in front of
a quote it is taken as its escape, two in a row as one that is escaped already. -/
def labelValue (held : Bool) : List Char → List Char
  | [] => if held then ['\\', '\\'] else []
  | '\n' :: rest => '\\' :: 'n' :: labelValue held rest
  | '"' :: rest => '\\' :: '"' :: labelValue false rest
  | '\\' :: rest => if held then '\\' :: '\\' :: labelValue false rest else labelValue true rest
  | c :: rest => (if held then ['\\', '\\'] else []) ++ c :: labelValue false rest

def labelText (label : String × String) : String :=
  labelName label.1 ++ "=\"" ++ String.ofList (labelValue false label.2.toList) ++ "\""

/-- The line of one combination of labels. Labels of the counter replace global ones in their place. -/
def line (globalLabels : Entries String) (counter : Counter) (labels : Entries String) (count : Nat) :
    String :=
  let texts := (globalLabels.putAll labels).map labelText
  counter.name ++ "\x7b" ++ ",".intercalate texts ++ "\x7d " ++ toString count

/-- The lines of one counter, none where nothing was counted. -/
def counterLines (globalLabels : Entries String) (described : Bool) (events : List Event)
    (counter : Counter) : List String :=
  let tallied := tally counter events
  if tallied.isEmpty then []
  else
    (if described then ["# HELP " ++ counter.name ++ " " ++ counter.help] else []) ++
      ("# TYPE " ++ counter.name ++ " counter") ::
        tallied.map fun entry => line globalLabels counter entry.1 entry.2

/-- All lines, in the order of their code points. -/
def lines (globalLabels : Entries String) (described : Bool) (events : List Event) : List String :=
  (Counter.all.flatMap (counterLines globalLabels described events)).mergeSort (· ≤ ·)

end Metrics
end Annotations
