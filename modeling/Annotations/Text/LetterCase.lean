import Annotations.Text.CaseTable
import Annotations.Text.Ranges

/-!
Texts in lower and upper case, by the full case mappings of Unicode.
-/
namespace Annotations.Text

/-- Maps a code point by the run that covers it, if there is one. -/
def mapByRuns (runs : List CaseRun) (c : Char) : Char :=
  match runs.find? (·.covers c.toNat) with
  | some run => Char.ofNat (c.toNat + run.2.2.2).toNat
  | none => c

/-- Whether a letter comes next, characters without a say in case aside. -/
def caseFollows (chars : List Char) : Bool :=
  match chars.dropWhile (inRanges caseIgnorableRanges) with
  | [] => false
  | c :: _ => inRanges casedRanges c

/-- Lower case, after the characters `before`, nearest first. A sigma at the end of a word has a form
of its own, and the dotted capital I keeps its dot. -/
def lowerAfter (before : List Char) : List Char → List Char
  | [] => []
  | c :: rest =>
    let mapped :=
      if c = 'Σ' then [if caseFollows before && !caseFollows rest then 'ς' else 'σ']
      else if c = 'İ' then ['i', '\u0307']
      else [mapByRuns lowerRuns c]
    mapped ++ lowerAfter (c :: before) rest

/-- A text in lower case. -/
def lower (text : String) : String := String.ofList (lowerAfter [] text.toList)

def upperChar (c : Char) : List Char :=
  match upperSequences.lookup c.toNat with
  | some codes => codes.map Char.ofNat
  | none => [mapByRuns upperRuns c]

/-- A text in upper case; a character may become several. -/
def upper (text : String) : String := String.ofList (text.toList.flatMap upperChar)

end Annotations.Text
