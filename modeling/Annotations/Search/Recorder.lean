import Annotations.Search

/-!
A processor that writes down what a search gives it, and that can be told to fail or to end the
search.
-/
namespace Annotations

/-- What a processor was given. -/
inductive Given where
  | candidate (element : Element) (annot : Annot) (depth : Nat)
  | passed (element : Element) (annot : Annot)
deriving Inhabited, Repr

/-- What a recorder does beyond writing down. -/
structure Recorder where
  /-- The type of a candidate it fails at, and whether that aborts the search. -/
  fail : Option (String × Bool) := none
  /-- The type of an annotation it fails at on the way back. -/
  failBack : Option (String × Bool) := none
  /-- The type of a candidate it ends the search at. -/
  stop : Option String := none
  /-- How many such candidates it lets pass first. -/
  skips : Nat := 0

structure Recording where
  /-- What was given so far, latest first. -/
  given : List Given := []
  skipped : Nat := 0
deriving Inhabited

namespace Recorder

/-- Fails at a type: for good with a configuration error, else with an introspection error. -/
def failAt (type : String) : Option (String × Bool) → Action Recording Unit
  | some (wanted, aborts) => do
    if type == wanted then
      throw (if aborts then .aliasPointsToSelf type "recorder" else .unknownClass type)
  | none => return

/-- Ends the search at a candidate of the wanted type, with the element and the annotation as text. -/
def processor (recorder : Recorder) : Processor Recording (List String) where
  process element annot depth := do
    modify fun s => { s with given := .candidate element annot depth :: s.given }
    failAt annot.type recorder.fail
    if recorder.stop != some annot.type then return none
    if (← get).skipped < recorder.skips then
      modify fun s => { s with skipped := s.skipped + 1 }
      return none
    return some [element.display ++ " " ++ annot.display]
  postProcess element annot result := do
    modify fun s => { s with given := .passed element annot :: s.given }
    failAt annot.type recorder.failBack
    return result ++ [annot.type]

end Recorder

/-- Ends the search at the first candidate of a type, with its element. -/
def firstElement (target : String) : Processor Unit Element where
  process element annot _ := return if annot.type == target then some element else none

end Annotations
