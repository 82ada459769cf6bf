import Annotations.Entries
import Annotations.Text.Alphanumeric
import Annotations.Text.Blank
import Annotations.Text.Reader

/-!
Files of variables. A line gives a name and a value; a quoted value may go on over several lines, and
a dollar sign stands for the value of an earlier variable, those of the environment first.
-/
namespace Annotations.EnvFile

/-! ## Lines -/

/-- Where a line stands between quotes, escapes and blanks. -/
inductive Place where
  | plain
  | escaped
  | strong
  | strongEscaped
  | weak
  | weakEscaped
  | blank
deriving DecidableEq, Repr

/-- The place after one more character outside of quotes. -/
def enter (c : Char) : Place :=
  match c with
  | '\\' => .escaped
  | '"' => .weak
  | '\x27' => .strong
  | _ => .plain

def step (c : Char) : Place → Place
  | .plain => if Text.isBlank c && c != '\n' && c != '\r' then .blank else enter c
  | .blank => enter c
  | .escaped => .plain
  | .weak => if c == '\\' then .weakEscaped else if c == '"' then .plain else .weak
  | .weakEscaped => .weak
  | .strong => if c == '\\' then .strongEscaped else if c == '\x27' then .plain else .strong
  | .strongEscaped => .strong

/-- Follows a line to its end, or to a comment, which starts with a hash after a blank. Gives what
stands in front of it, latest first, and the place at the end. -/
def follow (read : List Char) : Place → List Char → List Char × Option Place
  | place, [] => (read, some place)
  | .blank, '#' :: _ => (read, none)
  | place, c :: rest => follow (c :: read) (step c place) rest

/-- The lines of a text, each with its line break. -/
def rawLines : List Char → List (List Char)
  | [] => []
  | '\n' :: rest => ['\n'] :: rawLines rest
  | c :: rest =>
    match rawLines rest with
    | [] => [[c]]
    | first :: others => (c :: first) :: others

/-- A line without its line break, from its characters latest first. -/
def unbroken : List Char → List Char
  | '\n' :: '\r' :: rest => rest.reverse
  | '\n' :: rest => rest.reverse
  | rest => rest.reverse

/-- Whether nothing but white space stands in front of a hash. -/
def isComment (chars : List Char) : Bool := (chars.dropWhile Text.isBlank).head? == some '#'

/-- Joins lines that an open quote, an escape or a blank at the end holds together. `read` is what was
joined so far, latest character first. No line may be held open at the end. -/
def joined (read : List Char) (place : Place) : List (List Char) → Option (List (List Char))
  | [] => if place = .plain then some [] else none
  | raw :: rest =>
    if isComment (read.reverse ++ raw) then joined [] .plain rest
    else
      match follow read place raw with
      | (read, none) => (read.reverse :: ·) <$> joined [] .plain rest
      | (read, some .plain) => (unbroken read :: ·) <$> joined [] .plain rest
      | (read, some place) => joined read place rest

/-! ## Values -/

/-- What a name stands for: its value in the environment, else its latest value in the file. -/
def meaning (env known : Entries String) (name : List Char) : List Char :=
  let name := String.ofList name
  (((env.get? name).or (known.get? name)).getD "").toList

/-- How far a value has been read. -/
inductive Mode where
  | plain
  | weak
  | strong
  | escaped (weak : Bool)
  /-- After a dollar sign, with the letters of the name so far, latest first. -/
  | named (weak : Bool) (name : List Char)
  /-- After a dollar sign and a brace. -/
  | braced (weak : Bool) (name : List Char)
  /-- After a blank, where only blanks or a comment may follow. -/
  | finished
deriving DecidableEq, Repr

def resume (weak : Bool) : Mode := if weak then .weak else .plain

/-- Reads a value by its characters; `written` is the value so far, latest character first. -/
def readValue (env known : Entries String) (written : List Char) : Mode → List Char → Option (List Char)
  | .plain, [] | .escaped false, [] | .finished, [] => some written.reverse
  | .named false name, [] => some (written.reverse ++ meaning env known name.reverse)
  | _, [] => none
  | .finished, c :: rest =>
    if c == ' ' || c == '\t' then readValue env known written .finished rest
    else if c == '#' then some written.reverse
    else none
  | .escaped weak, c :: rest =>
    if c == '\\' || c == '\x27' || c == '"' || c == '$' || c == ' ' then
      readValue env known (c :: written) (resume weak) rest
    else if c == 'n' then readValue env known ('\n' :: written) (resume weak) rest
    else none
  | .strong, c :: rest =>
    if c == '\x27' then readValue env known written .plain rest
    else readValue env known (c :: written) .strong rest
  | .named weak name, c :: rest =>
    if Text.isAlphanumeric c then readValue env known written (.named weak (c :: name)) rest
    else if c == '\x7b' && name.isEmpty then readValue env known written (.braced weak []) rest
    else
      let written := (meaning env known name.reverse).reverse ++ written
      if c == '$' then readValue env known written (.named weak []) rest
      else readValue env known (c :: written) (resume weak) rest
  | .braced weak name, c :: rest =>
    if c == '\x7d' then
      readValue env known ((meaning env known name.reverse).reverse ++ written) (resume weak) rest
    else readValue env known written (.braced weak (c :: name)) rest
  | .weak, c :: rest =>
    if c == '$' then readValue env known written (.named true []) rest
    else if c == '"' then readValue env known written .plain rest
    else if c == '\\' then readValue env known written (.escaped true) rest
    else readValue env known (c :: written) .weak rest
  | .plain, c :: rest =>
    if c == '$' then readValue env known written (.named false []) rest
    else if c == '\x27' then readValue env known written .strong rest
    else if c == '"' then readValue env known written .weak rest
    else if c == '\\' then readValue env known written (.escaped false) rest
    else if c == ' ' || c == '\t' then readValue env known written .finished rest
    else readValue env known (c :: written) .plain rest

/-! ## Variables -/

open Reader

def blanks : Reader Unit := do let _ ← span Text.isBlank

def name : Reader String := do
  let first ← nextIf fun c => c.isAlpha || c == '_'
  let rest ← span fun c => c.isAlphanum || c == '_' || c == '.'
  return String.ofList (first :: rest)

/-- A name and the equals sign after it; the word export may stand in front. -/
def nameAndSign : Reader String := do
  let first ← name
  blanks
  if first == "export" then
    if ← skipIf ['='] then return first
    let second ← name
    blanks
    skip '='
    return second
  skip '='
  return first

/-- What a line gives: nothing where it is blank or a comment, or a name and the text of its value. -/
def assignment? (line : List Char) : Option (Option (String × List Char)) := do
  let line := ((line.reverse.dropWhile Text.isBlank).reverse).dropWhile Text.isBlank
  if line.isEmpty || line.head? == some '#' then return none
  let (name, rest) ← nameAndSign.run line
  return some (name, rest.dropWhile Text.isBlank)

/-- Reads lines one after another. -/
def readLines (env : Entries String) (found : List (String × String)) (known : Entries String) :
    List (List Char) → Option (List (String × String))
  | [] => some found.reverse
  | line :: rest => do
    match ← assignment? line with
    | none => readLines env found known rest
    | some (name, text) =>
      let written ← if isComment text then some [] else readValue env known [] .plain text
      let value := String.ofList written
      readLines env ((name, value) :: found) (known.put name value) rest

/-- The variables that a file gives, in order; none if some line cannot be read. -/
def ofText? (env : Entries String) (text : String) : Option (List (String × String)) := do
  readLines env [] [] (← joined [] .plain (rawLines text.toList))

end Annotations.EnvFile
