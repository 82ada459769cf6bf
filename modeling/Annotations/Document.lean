/-!
Documents: the trees that configuration texts are read into, and how sections of named fields are
taken from them.
-/
namespace Annotations

inductive Document where
  | null
  | boolean (flag : Bool)
  | whole (number : Int)
  /-- A fraction, which no setting takes. -/
  | otherScalar
  | text (content : String)
  | list (items : List Document)
  | table (entries : List (String × Document))
deriving Inhabited, Repr

namespace Document

/-- The notation a document was written in. -/
inductive Notation where
  | json
  | toml
deriving DecidableEq, Repr

def boolean? : Document → Option Bool
  | .boolean flag => some flag
  | _ => none

def text? : Document → Option String
  | .text content => some content
  | _ => none

def texts? : Document → Option (List String)
  | .list items => items.mapM text?
  | _ => none

/-- A number of a machine word. -/
def word? : Document → Option Nat
  | .whole number => if 0 ≤ number ∧ number < UInt64.size then some number.toNat else none
  | _ => none

/-- The entries of a table whose values are texts. -/
def textEntries? : Document → Option (List (String × String))
  | .table entries => entries.mapM fun entry => entry.2.text?.map (entry.1, ·)
  | _ => none

/-- Whether names stand for themselves, each once, among the names of a section. -/
def namesFit (names : List String) : List (String × Document) → Bool
  | [] => true
  | (name, _) :: rest =>
    names.contains name && !rest.any (·.1 == name) && namesFit names rest

/-- The fields of a section: a table of some of its names, or a list of values in the order of the
names. Only in one notation a list may be longer than the names. -/
def section? (style : Notation) (names : List String) : Document → Option (List (String × Document))
  | .table entries => if namesFit names entries then some entries else none
  | .list items =>
    if style = .json ∧ names.length < items.length then none else some (names.zip items)
  | _ => none

/-- A field of a section, or its default where it is left out. -/
def field {α : Type} (fields : List (String × Document)) (name : String)
    (read : Document → Option α) (fallback : α) : Option α :=
  match fields.lookup name with
  | some document => read document
  | none => some fallback

/-- Whether a value may stand beside the name of a choice that carries nothing. -/
def isNothing (style : Notation) : Document → Bool
  | .null => style = .json
  | .list items => style = .toml && items.isEmpty
  | .table entries => style = .toml && entries.isEmpty
  | _ => false

/-- The name of a choice: a text, or a table of that name alone with nothing beside it. -/
def choice? (style : Notation) : Document → Option String
  | .text name => some name
  | .table [(name, beside)] => if beside.isNothing style then some name else none
  | _ => none

end Document
end Annotations
