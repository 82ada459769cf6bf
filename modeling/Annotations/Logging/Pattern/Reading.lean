import Annotations.Logging.Pattern
import Annotations.Text.Alphanumeric
import Annotations.Text.Blank
import Annotations.Text.Reader

/-!
Patterns as written. Counts of repetitions and names in braces are missing, as no brace closes
inside a field.
-/
namespace Annotations.Filter
open Reader

/-! ## Fillers -/

/-- What follows white space and comments; a comment ends with its line. -/
def afterFiller (inComment : Bool) : List Char → List Char
  | [] => []
  | c :: rest =>
    if inComment then afterFiller (c != '\n') rest
    else if Text.isBlank c then afterFiller false rest
    else if c == '#' then afterFiller true rest
    else c :: rest

/-- Skips fillers in a pattern that may be spaced out. -/
def filler (spaced : Bool) : Reader Unit := fun rest =>
  some ((), if spaced then afterFiller false rest else rest)

/-! ## Escapes -/

/-- Hexadecimal digits, with fillers around each. -/
def codeDigits (spaced : Bool) : Nat → Reader (List Char)
  | 0 => do
    filler spaced
    return []
  | n + 1 => do
    filler spaced
    let c ← nextIf (Text.isDigit 16)
    return c :: (← codeDigits spaced n)

def coded (spaced : Bool) (digits : Nat) : Reader Atom := do
  let char ← Text.char? (Text.number 16 (← codeDigits spaced digits))
  return .letter { char, byteCode := digits == 2 }

/-- A property by a single letter. -/
def propertyName (spaced : Bool) : Reader Atom := do
  filler spaced
  let _ ← nextIf fun c => c != '\\' && c != '\x7b'
  filler spaced
  return .property

def plain (char : Char) : Atom := .letter { char }

/-- What follows a backslash. Of ASCII, all but letters and digits may stand for itself. -/
def escaped (spaced : Bool) : Reader Atom := do
  match ← next with
  | 'x' => coded spaced 2
  | 'u' => coded spaced 4
  | 'U' => coded spaced 8
  | 'p' | 'P' => propertyName spaced
  | 'd' | 's' | 'w' => return .shorthand false
  | 'D' | 'S' | 'W' => return .shorthand true
  | 'A' | 'z' => return .edge
  | 'b' | 'B' | '<' | '>' => return .wordEdge
  | 'a' => return plain '\x07'
  | 'f' => return plain '\x0c'
  | 't' => return plain '\t'
  | 'n' => return plain '\n'
  | 'r' => return plain '\r'
  | 'v' => return plain '\x0b'
  | c => if isAscii c && !c.isAlphanum then return plain c else failure

/-! ## Sets -/

def setNames : List String :=
  ["alnum", "alpha", "ascii", "blank", "cntrl", "digit", "graph", "lower", "print", "punct", "space",
    "upper", "word", "xdigit"]

/-- A set by its name, between colons in brackets of its own. -/
def namedSet : Reader CharSet := do
  skipAll ['[', ':']
  let negated ← skipIf ['^']
  let name ← span (· != ':')
  skipAll [':', ']']
  if setNames.contains (String.ofList name) then return .named negated else failure

def setAtom (spaced : Bool) : Reader Atom := do
  if ← skipIf ['\\'] then escaped spaced else return plain (← next)

def setLetter (spaced : Bool) : Reader Letter := do
  match ← setAtom spaced with
  | .letter letter => return letter
  | _ => failure

/-- What comes after the next character, fillers aside. -/
def afterNext (spaced : Bool) : Reader (Option Char) := fun rest =>
  some ((if spaced then afterFiller false rest.tail else rest.tail).head?, rest)

/-- A member of a set or a range of members. A dash in front of a bracket or dash makes no range. -/
def setItem (spaced : Bool) : Reader CharSet := do
  let first ← setAtom spaced
  filler spaced
  let ahead ← afterNext spaced
  if (← peek) == some '-' && ahead != some ']' && ahead != some '-' then
    skip '-'
    filler spaced
    let high ← setLetter spaced
    match first with
    | .letter low => if low.char ≤ high.char then return .range low high else failure
    | _ => failure
  else
    match first with
    | .letter _ | .shorthand _ | .property => return .atom first
    | _ => failure

/-- Dashes at the start of a set, which stand for themselves. -/
def leadingDashes (spaced : Bool) : Nat → Reader (List CharSet)
  | 0 => failure
  | fuel + 1 => do
    if ← skipIf ['-'] then
      filler spaced
      return .atom (plain '-') :: (← leadingDashes spaced fuel)
    else return []

/-- The start of a set after its bracket: whether it is negated, and its first members. A bracket that
closes is a member where no other comes before it. -/
def setStart (spaced : Bool) (fuel : Nat) : Reader (Bool × List CharSet) := do
  filler spaced
  let negated ← skipIf ['^']
  if negated then filler spaced
  let dashes ← leadingDashes spaced fuel
  if dashes.isEmpty then
    if ← skipIf [']'] then
      filler spaced
      return (negated, [.atom (plain ']')])
  return (negated, dashes)

/-- The set of some members, last first, as the right side of an operation if there is a left one. -/
def joinSet (left : Option CharSet) (items : List CharSet) : CharSet :=
  let right := match items with
    | [item] => item
    | items => .union items.reverse
  match left with
  | none => right
  | some left => .operation left right

/-- The members of a set up to its closing bracket, after those read already. -/
def setRest (spaced : Bool) : Nat → Option CharSet → List CharSet → Reader CharSet
  | 0, _, _ => failure
  | fuel + 1, left, items => do
    filler spaced
    match ← peek with
    | some ']' => do
      skip ']'
      return joinSet left items
    | some '[' => do
      match ← maybe namedSet with
      | some item => setRest spaced fuel left (item :: items)
      | none => do
        skip '['
        let (negated, first) ← setStart spaced fuel
        let content ← setRest spaced fuel none first.reverse
        setRest spaced fuel left (.nested negated content :: items)
    | _ => do
      if ← skipAny ["&&", "--", "~~"] then
        setRest spaced fuel (some (joinSet left items)) []
      else
        let item ← setItem spaced
        setRest spaced fuel left (item :: items)

def bracketSet (spaced : Bool) (fuel : Nat) : Reader Pattern := do
  skip '['
  let (negated, first) ← setStart spaced fuel
  return .set negated (← setRest spaced fuel none first.reverse)

/-! ## Groups -/

/-- What the flags as written do: those behind a dash are turned off. -/
def flagChange? (written : List Char) : Option FlagChange :=
  let known := written.all fun c => "ismUuRx-".toList.contains c
  if known && decide written.Nodup && written.getLast? != some '-' then
    let (on, off) := (written.takeWhile (· != '-'), written.dropWhile (· != '-'))
    let state (flag : Char) : Option Bool :=
      if on.contains flag then some true else if off.contains flag then some false else none
    some { anyCase := state 'i', unicode := state 'u', spaced := state 'x' }
  else none

def isGroupName : List Char → Bool
  | [] => false
  | first :: rest =>
    (first == '_' || Text.isAlphabetic first) &&
      rest.all fun c => ['_', '.', '[', ']'].contains c || Text.isAlphanumeric c

inductive Opening where
  | change (flags : FlagChange)
  | group (name : Option (List Char)) (flags : FlagChange)

/-- What follows the parenthesis that opens a group: a name, flags, or nothing. Flags alone make no group. -/
def opening (spaced : Bool) : Reader Opening := do
  filler spaced
  if ← seesAny ["?=", "?!", "?<=", "?<!"] then failure
  if ← skipAny ["?P<", "?<"] then
    let name ← span (· != '>')
    skip '>'
    if isGroupName name then return .group (some name) {} else failure
  else if ← skipIf ['?'] then
    let written ← span fun c => c != ':' && c != ')'
    let flags ← flagChange? written
    if (← next) == ':' then return .group none flags
    if written.isEmpty then failure else return .change flags
  else return .group none {}

/-! ## Whole patterns -/

/-- Parts one after another, last first. -/
def joinParts : List Pattern → Pattern
  | [part] => part
  | parts => .sequence parts.reverse

def joinBranches (branches : List Pattern) (parts : List Pattern) : Pattern :=
  if branches.isEmpty then joinParts parts else .choice (joinParts parts :: branches).reverse

/-- A pattern up to the end of its group, after the branches and the parts read already. -/
def pattern : Nat → Bool → List Pattern → List Pattern → Reader Pattern
  | 0, _, _, _ => failure
  | fuel + 1, spaced, branches, parts => do
    filler spaced
    match ← peek with
    | none | some ')' => return joinBranches branches parts
    | some '|' => do
      skip '|'
      pattern fuel spaced (joinParts parts :: branches) []
    | some '(' => do
      skip '('
      match ← opening spaced with
      | .change flags => pattern fuel (flags.spaced.getD spaced) branches (.change flags :: parts)
      | .group name flags => do
        let inner ← pattern fuel (flags.spaced.getD spaced) [] []
        skip ')'
        pattern fuel spaced branches (.group name flags inner :: parts)
    | some '[' => do
      let set ← bracketSet spaced fuel
      pattern fuel spaced branches (set :: parts)
    | some '*' | some '+' | some '?' => do
      let _ ← next
      let _ ← skipIf ['?']
      match parts with
      | [] | .change _ :: _ => failure
      | last :: before => pattern fuel spaced branches (.repeated last :: before)
    | some '\x7b' => failure
    | some '\\' => do
      skip '\\'
      let atom ← escaped spaced
      pattern fuel spaced branches (.atom atom :: parts)
    | some '.' => do
      skip '.'
      pattern fuel spaced branches (.atom .any :: parts)
    | some '^' | some '$' => do
      let _ ← next
      pattern fuel spaced branches (.atom .edge :: parts)
    | some c => do
      skip c
      pattern fuel spaced branches (.atom (plain c) :: parts)

/-- The pattern that a text writes. -/
def Pattern.ofText? (chars : List Char) : Option Pattern :=
  Reader.run? (pattern (chars.length + 1) false [] []) chars

end Annotations.Filter
