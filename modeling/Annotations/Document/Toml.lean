import Annotations.Document
import Annotations.Document.Toml.Date
import Annotations.Document.Toml.Number
import Annotations.Entries
import Annotations.Text.Reader

/-!
Documents in TOML. Lines put values into a tree in which it is kept how each table came about, as
that decides what may still be added to it.
-/
namespace Annotations.Document.Toml
open Reader

/-! ## The tree -/

/-- How a table came about: by a header of its own, on the way of a longer header, or by a dotted key. -/
inductive Origin where
  | header
  | implied
  | dotted
deriving DecidableEq, Repr

inductive Node where
  /-- A value, to which nothing can be added. -/
  | value (document : Document)
  | table (origin : Origin) (entries : List (String × Node))
  /-- Tables under one header, of which the last one is open. -/
  | tables (items : List (List (String × Node)))
deriving Inhabited

abbrev Nodes := Entries Node

namespace Node

mutual

def toDocument : Node → Document
  | .value document => document
  | .table _ entries => .table (entryDocuments entries)
  | .tables items => .list (itemDocuments items)

def entryDocuments : List (String × Node) → List (String × Document)
  | [] => []
  | (name, node) :: rest => (name, toDocument node) :: entryDocuments rest

def itemDocuments : List (List (String × Node)) → List Document
  | [] => []
  | entries :: rest => .table (entryDocuments entries) :: itemDocuments rest

end

end Node

/-- Edits the last of some tables. -/
def editLast (edit : Nodes → Option Nodes) : List Nodes → Option (List Nodes)
  | [] => none
  | [last] => do return [← edit last]
  | first :: rest => do return first :: (← editLast edit rest)

/-- Edits the table a header leads to; tables missing on the way are implied. -/
def editAt (edit : Nodes → Option Nodes) : List String → Nodes → Option Nodes
  | [], nodes => edit nodes
  | key :: rest, nodes => do
    match nodes.get? key with
    | none => return nodes.put key (.table .implied (← editAt edit rest []))
    | some (.table origin inner) => return nodes.put key (.table origin (← editAt edit rest inner))
    | some (.tables items) => return nodes.put key (.tables (← editLast (editAt edit rest) items))
    | some (.value _) => failure

/-- Opens a table by its header; one that was only implied may still be opened. -/
def openTable (key : String) (nodes : Nodes) : Option Nodes :=
  match nodes.get? key with
  | none => some (nodes.put key (.table .header []))
  | some (.table .implied inner) => some (nodes.put key (.table .header inner))
  | some _ => none

/-- Opens one more table under a header of many. -/
def openNext (key : String) (nodes : Nodes) : Option Nodes :=
  match nodes.get? key with
  | none => some (nodes.put key (.tables [[]]))
  | some (.tables items) => some (nodes.put key (.tables (items ++ [[]])))
  | some _ => none

/-- Puts a value under a dotted key. The tables on the way must not have headers of their own, and
the last of them must come from dotted keys alone. -/
def assign (key : String) (document : Document) : List String → Nodes → Option Nodes
  | [], nodes => if nodes.has key then none else some (nodes.put key (.value document))
  | step :: rest, nodes => do
    match nodes.get? step with
    | none => return nodes.put step (.table .dotted (← assign key document rest []))
    | some (.table .dotted inner) =>
      return nodes.put step (.table .dotted (← assign key document rest inner))
    | some (.table .implied inner) =>
      if rest.isEmpty then failure
      return nodes.put step (.table .implied (← assign key document rest inner))
    | some (.tables items) =>
      if rest.isEmpty then failure
      return nodes.put step (.tables (← editLast (assign key document rest) items))
    | some (.table .header _) | some (.value _) => failure

/-! ## Blanks and comments -/

def isGap (c : Char) : Bool := c == ' ' || c == '\t'

def gap : Reader Unit := do let _ ← span isGap

/-- Whether a character may stand in a comment. -/
def isPlain (c : Char) : Bool := c == '\t' || (0x20 ≤ c.toNat && c.toNat != 0x7f)

def comment : Reader Unit := do
  skip '#'
  let _ ← span isPlain

def lineBreak : Reader Unit := do
  if ← skipIf ['\r', '\n'] then return
  skip '\n'

/-- The end of a line, which may have a comment. -/
def lineEnd : Reader Unit := do
  gap
  if (← peek) == some '#' then comment
  if (← peek).isSome then lineBreak

/-- Blanks, comments and line breaks between the items of an array. -/
def filler : Nat → Reader Unit
  | 0 => failure
  | fuel + 1 => do
    gap
    match ← peek with
    | some '#' =>
      comment
      lineBreak
      filler fuel
    | some '\r' | some '\n' =>
      lineBreak
      filler fuel
    | _ => return

/-! ## Texts -/

/-- A character by a given number of hexadecimal digits. -/
def code (digits : Nat) : Reader Char := do
  Text.char? (Text.number 16 (← count (Text.isDigit 16) digits))

/-- What follows a backslash. -/
def escape : Reader Char := do
  match ← next with
  | 'b' => return '\x08'
  | 'f' => return '\x0c'
  | 'n' => return '\n'
  | 'r' => return '\r'
  | 't' => return '\t'
  | '"' => return '"'
  | '\\' => return '\\'
  | 'u' => code 4
  | 'U' => code 8
  | _ => failure

/-- The rest of a text in quotes, with escapes. -/
def basicRest : Nat → Reader (List Char)
  | 0 => failure
  | fuel + 1 => do
    match ← next with
    | '"' => return []
    | '\\' => do
      let c ← escape
      return c :: (← basicRest fuel)
    | c => if isPlain c then return c :: (← basicRest fuel) else failure

/-- The rest of a text in apostrophes, in which nothing is escaped. -/
def literalRest : Reader (List Char) := do
  let taken ← span fun c => isPlain c && c != '\x27'
  skip '\x27'
  return taken

/-- Line breaks and gaps after a backslash at the end of a line. -/
def foldedRest : Nat → Reader Unit
  | 0 => failure
  | fuel + 1 => do
    gap
    match ← peek with
    | some '\r' | some '\n' =>
      lineBreak
      foldedRest fuel
    | _ => return

/-- Whether a backslash folds the line: only gaps follow it on the line. -/
def folds : Reader Bool := fun rest =>
  some (match rest.dropWhile isGap with
    | '\n' :: _ | '\r' :: '\n' :: _ => true
    | _ => false, rest)

/-- The end of a text of several lines: three of its marks, with up to two more in front of them that
belong to the text. -/
def closing (mark : Char) : Reader (Option (List Char)) := fun rest =>
  let marks := (rest.takeWhile (· == mark)).length
  if marks < 3 then some (none, rest)
  else
    let extra := min (marks - 3) 2
    some (some (List.replicate extra mark), rest.drop (extra + 3))

/-- The rest of a text of several lines, with escapes if its mark is the quote. -/
def linesRest (mark : Char) : Nat → Reader (List Char)
  | 0 => failure
  | fuel + 1 => do
    if let some extra ← closing mark then return extra
    match ← peek with
    | some '\r' | some '\n' => do
      lineBreak
      return '\n' :: (← linesRest mark fuel)
    | some '\\' => do
      skip '\\'
      if mark != '"' then return '\\' :: (← linesRest mark fuel)
      if ← folds then
        foldedRest fuel
        linesRest mark fuel
      else
        let c ← escape
        return c :: (← linesRest mark fuel)
    | _ => do
      let c ← nextIf isPlain
      return c :: (← linesRest mark fuel)

/-- A text of several lines after its opening marks; a line break right after them does not count. -/
def lines (mark : Char) (fuel : Nat) : Reader (List Char) := do
  match ← peek with
  | some '\r' | some '\n' => lineBreak
  | _ => pure ()
  linesRest mark fuel

/-! ## Keys -/

def isBare (c : Char) : Bool := c.isAlphanum || c == '-' || c == '_'

def simpleKey (fuel : Nat) : Reader String := do
  if ← skipIf ['"'] then return String.ofList (← basicRest fuel)
  if ← skipIf ['\x27'] then return String.ofList (← literalRest)
  return String.ofList (← span1 isBare)

/-- One or more parts between dots. -/
def keyParts : Nat → Reader (List String)
  | 0 => failure
  | fuel + 1 => do
    gap
    let part ← simpleKey fuel
    gap
    if ← skipIf ['.'] then return part :: (← keyParts fuel)
    return [part]

/-- How far values may be nested and how many parts a key may have, less one. -/
def depthLimit : Nat := 80

/-- A key of one or more parts. -/
def key (fuel : Nat) : Reader (List String) := do
  let parts ← keyParts fuel
  if parts.length < depthLimit then return parts else failure

/-- The way to a key's table, and its last part. -/
def splitLast (parts : List String) : Option (List String × String) :=
  parts.getLast?.map fun last => (parts.dropLast, last)

/-! ## Values -/

/-- The name under which a date or time is shown, where a table is wanted. -/
def momentKey : String := "$__toml_private_datetime"

/-- A date, time or number. -/
def number : Reader Document :=
  (do return .table [(momentKey, .text (← moment).render)])
  <|> (do
    fraction <|> special
    return .otherScalar)
  <|> (.whole <$> whole)

/-- A value without marks around it. -/
def symbol : Reader Document := do
  if ← skipIf ['t', 'r', 'u', 'e'] then return .boolean true
  if ← skipIf ['f', 'a', 'l', 's', 'e'] then return .boolean false
  number

/-- The table of pairs inside braces. -/
def inlineTable? (pairs : List (List String × Document)) : Option Document := do
  let nodes ← pairs.foldlM (fun nodes pair => do
    let (way, last) ← splitLast pair.1
    assign last pair.2 way nodes) ([] : Nodes)
  return (Node.table .header nodes).toDocument

mutual

/-- A value inside so many others. -/
def value (depth : Nat) : Nat → Reader Document
  | 0 => failure
  | fuel + 1 => do
    if ← skipIf ['"', '"', '"'] then return .text (String.ofList (← lines '"' fuel))
    if ← skipIf ['\x27', '\x27', '\x27'] then return .text (String.ofList (← lines '\x27' fuel))
    if ← skipIf ['"'] then return .text (String.ofList (← basicRest fuel))
    if ← skipIf ['\x27'] then return .text (String.ofList (← literalRest))
    match ← peek with
    | some '[' => do
      if depthLimit ≤ depth + 1 then failure
      skip '['
      return .list (← items (depth + 1) fuel)
    | some '\x7b' => do
      if depthLimit ≤ depth + 1 then failure
      skip '\x7b'
      gap
      if ← skipIf ['\x7d'] then return .table []
      inlineTable? (← pairs (depth + 1) fuel)
    | _ => symbol

/-- Items up to the closing bracket; a comma may stand behind the last one. -/
def items (depth : Nat) : Nat → Reader (List Document)
  | 0 => failure
  | fuel + 1 => do
    filler fuel
    if ← skipIf [']'] then return []
    let item ← value depth fuel
    filler fuel
    if ← skipIf [','] then return item :: (← items depth fuel)
    skip ']'
    return [item]

/-- Pairs up to the closing brace, on one line and without a comma behind the last one. -/
def pairs (depth : Nat) : Nat → Reader (List (List String × Document))
  | 0 => failure
  | fuel + 1 => do
    let name ← key fuel
    skip '='
    gap
    let item ← value depth fuel
    gap
    if ← skipIf [','] then return (name, item) :: (← pairs depth fuel)
    skip '\x7d'
    return [(name, item)]

end

/-! ## Lines -/

/-- What a line says. -/
inductive Line where
  | nothing
  | table (way : List String) (key : String)
  | next (way : List String) (key : String)
  | assign (way : List String) (key : String) (document : Document)

def line (fuel : Nat) : Reader Line := do
  gap
  match ← peek with
  | none | some '#' | some '\r' | some '\n' =>
    lineEnd
    return .nothing
  | some '[' =>
    if ← skipIf ['[', '['] then
      let (way, last) ← splitLast (← key fuel)
      skipAll [']', ']']
      lineEnd
      return .next way last
    else
      skip '['
      let (way, last) ← splitLast (← key fuel)
      skip ']'
      lineEnd
      return .table way last
  | some _ =>
    let (way, last) ← splitLast (← key fuel)
    skip '='
    gap
    let document ← value 0 fuel
    lineEnd
    return .assign way last document

/-- The tree so far, and the header that lines stand under. -/
structure Builder where
  nodes : Nodes := []
  header : List String := []

def Builder.add (builder : Builder) : Line → Option Builder
  | .nothing => some builder
  | .table way key => do
    return { nodes := ← editAt (openTable key) way builder.nodes, header := way ++ [key] }
  | .next way key => do
    return { nodes := ← editAt (openNext key) way builder.nodes, header := way ++ [key] }
  | .assign way key document => do
    return { builder with nodes := ← editAt (assign key document way) builder.header builder.nodes }

def allLines (builder : Builder) : Nat → Reader Builder
  | 0 => failure
  | fuel + 1 => do
    if (← peek).isNone then return builder
    let said ← line fuel
    match builder.add said with
    | some builder => allLines builder fuel
    | none => failure

/-- The document that a text writes; a byte order mark in front does not count. -/
def ofText? (text : String) : Option Document := do
  let chars := match text.toList with
    | '\ufeff' :: rest => rest
    | chars => chars
  let builder ← Reader.run? (allLines {} (2 * chars.length + 2)) chars
  return (Node.table .header builder.nodes).toDocument

end Annotations.Document.Toml
