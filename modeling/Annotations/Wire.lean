import Annotations.Document

/-!
Fields of documents, read by name. A reading that fails says what it missed.
-/
namespace Annotations

namespace Document

mutual

/-- How deeply lists and tables stand inside one another. -/
def depth : Document → Nat
  | .list items => itemsDepth items + 1
  | .table entries => entriesDepth entries + 1
  | _ => 0

def itemsDepth : List Document → Nat
  | [] => 0
  | item :: rest => max (depth item) (itemsDepth rest)

def entriesDepth : List (String × Document) → Nat
  | [] => 0
  | (_, item) :: rest => max (depth item) (entriesDepth rest)

end

def number (n : Nat) : Document := .whole n

def texts (items : List String) : Document := .list (items.map .text)

/-- A value that may be missing. -/
def option {α : Type} (write : α → Document) : Option α → Document
  | some value => write value
  | none => .null

end Document

namespace Wire

abbrev Decode (α : Type) := Except String α

/-- A field that is there and not null. -/
def field? (document : Document) (name : String) : Option Document :=
  match document with
  | .table entries =>
    match entries.lookup name with
    | some .null | none => none
    | some value => some value
  | _ => none

def field (document : Document) (name : String) : Decode Document :=
  match field? document name with
  | some value => .ok value
  | none => .error ("missing " ++ name)

def asText : Document → Decode String
  | .text content => .ok content
  | _ => .error "no text"

def asFlag : Document → Decode Bool
  | .boolean flag => .ok flag
  | _ => .error "no flag"

def asNumber : Document → Decode Nat
  | .whole (.ofNat n) => .ok n
  | _ => .error "no number"

def asList : Document → Decode (List Document)
  | .list items => .ok items
  | _ => .error "no list"

def asPair : Document → Decode (Document × Document)
  | .list [a, b] => .ok (a, b)
  | _ => .error "no pair"

def asTextPair (document : Document) : Decode (String × String) := do
  let (a, b) ← asPair document
  return (← asText a, ← asText b)

def text (document : Document) (name : String) : Decode String := do asText (← field document name)

def text? (document : Document) (name : String) : Decode (Option String) :=
  (field? document name).mapM asText

/-- A flag, down where it is left out. -/
def flag (document : Document) (name : String) : Decode Bool := do
  return (← (field? document name).mapM asFlag).getD false

/-- A number, zero where it is left out. -/
def number (document : Document) (name : String) : Decode Nat := do
  return (← (field? document name).mapM asNumber).getD 0

/-- A list, empty where it is left out. -/
def list (document : Document) (name : String) : Decode (List Document) := do
  return (← (field? document name).mapM asList).getD []

/-- The items of a list, each read in the same way. -/
def listOf {α : Type} (read : Document → Decode α) (document : Document) (name : String) :
    Decode (List α) := do
  (← list document name).mapM read

/-- A whole number in decimal digits. -/
def decimal (digits : String) : Decode Int :=
  match digits.toInt? with
  | some n => .ok n
  | none => .error "no decimal"

end Wire
end Annotations
