import Annotations.Element
import Annotations.Store
import Annotations.Text.Reader
import Annotations.Typed
import Annotations.Wire

/-!
Values, annotations, stores, types and elements as documents. A value is a table of one entry, whose
name tells its kind; whole numbers are written in decimal and doubles by the digits of their bits.
-/
namespace Annotations.Wire
open Document (option texts)

/-! ## Reading -/

/-- Entries under names, given what reads their values. -/
def readEntries (read : Document → Decode Value) (document : Document) : Decode (Entries Value) := do
  return Entries.ofPairs (← listOf (fun entry => do
    let (name, item) ← asPair entry
    return (← asText name, ← read item)) document "values")

def readAnnotWith (read : Document → Decode Value) (document : Document) : Decode Annot := do
  return { type := ← text document "type", values := ← readEntries read document }

def readStoreWith (read : Document → Decode Value) (document : Document) : Decode Store := do
  return {
    type := ← text? document "type"
    displayName := ← text? document "display_name"
    values := ← readEntries read document }

/-- A value, for nesting up to a bound. -/
def readNested : Nat → Document → Decode Value
  | 0, _ => .error "no value"
  | fuel + 1, document => do
    match document with
    | .table [("s", .text content)] => return .text content
    | .table [("b", .boolean flag)] => return .boolean flag
    | .table [("i", .text digits)] => return .long (Int64.ofInt (← decimal digits))
    | .table [("f", .text digits)] => return .double (UInt64.ofNat (Text.number 16 digits.toList))
    | .table [("c", .text name)] => return .classRef name
    | .table [("e", .list [.text type, .text constant])] => return .enum type constant
    | .table [("a", nested)] => return (← readAnnotWith (readNested fuel) nested).toValue
    | .table [("m", nested)] => return (← readStoreWith (readNested fuel) nested).toValue
    | .table [("l", .list items)] => return .array (← items.mapM (readNested fuel))
    | _ => throw "no value"

def readValue (document : Document) : Decode Value := readNested (document.depth + 1) document

def readAnnot (document : Document) : Decode Annot := readAnnotWith readValue document

def readStore (document : Document) : Decode Store := readStoreWith readValue document

/-- A type, for nesting up to a bound. -/
def readNestedType : Nat → Document → Decode AttrType
  | 0, _ => .error "no type"
  | fuel + 1, document => do
    match document with
    | .text "String" => return .text
    | .text "boolean" => return .boolean
    | .text "long" => return .long
    | .text "double" => return .double
    | .text "Class" => return .classRef
    | .table [("enum", .text name)] => return .enum name
    | .table [("annotation", .text name)] => return .annot name
    | .table [("array", element)] => return .array (← readNestedType fuel element)
    | _ => throw "no type"

def readType (document : Document) : Decode AttrType := readNestedType (document.depth + 1) document

def readMethodRef : Document → Decode MethodRef
  | .list [.text owner, .text name, .list parameters] => do
    return { owner, name, parameters := ← parameters.mapM asText }
  | _ => .error "no method"

def readElement (document : Document) : Decode Element := do
  if let some name ← text? document "class" then return .classLike name
  if let some name ← text? document "annotation_type" then return .annotType name
  return .method (← readMethodRef (← field document "method"))

/-- A kind without lists, by its name; the other names are those of schemas. -/
def itemKind? (schema? : String → Option Schema) : String → Option Kind
  | "any" => some .any
  | "String" => some .text
  | "boolean" => some .boolean
  | "long" => some .long
  | "int" => some .int
  | "double" => some .double
  | "Class" => some .classRef
  | "enum" => some .enum
  | "Annotation" => some .annot
  | "AnnotationAttributes" => some .store
  | name => (schema? name).map .record

/-- A kind by its name, latest character first; a pair of brackets behind a kind makes it a list. -/
def kindFromEnd? (schema? : String → Option Schema) : List Char → Option Kind
  | ']' :: '[' :: rest => (kindFromEnd? schema? rest).map .list
  | chars => itemKind? schema? (String.ofList chars.reverse)

def readKind (schema? : String → Option Schema) (name : String) : Decode Kind :=
  match kindFromEnd? schema? name.toList.reverse with
  | some kind => .ok kind
  | none => .error ("no kind " ++ name)

/-! ## Writing -/

/-- Sixteen hexadecimal digits. -/
def bitsText (bits : UInt64) : String :=
  let digits := Nat.toDigits 16 bits.toNat
  String.ofList (List.replicate (16 - digits.length) '0' ++ digits)

/-- A table of one entry. -/
def tagged (tag : String) (document : Document) : Document := .table [(tag, document)]

/-- A store's fields, of which the display name is the one shown. -/
def storeTable (type displayName : Option String) (values : Document) : Document :=
  .table [("type", option .text type), ("display_name", .text ((displayName.or type).getD "unknown")),
    ("values", values)]

mutual

def ofValue : Value → Document
  | .text content => tagged "s" (.text content)
  | .boolean flag => tagged "b" (.boolean flag)
  | .long number => tagged "i" (.text (toString number.toInt))
  | .double bits => tagged "f" (.text (bitsText bits))
  | .classRef name => tagged "c" (.text name)
  | .enum type constant => tagged "e" (texts [type, constant])
  | .annot type values =>
    tagged "a" (.table [("type", .text type), ("values", .list (entryForms values))])
  | .store type displayName values =>
    tagged "m" (storeTable type displayName (.list (entryForms values)))
  | .array items => tagged "l" (.list (itemForms items))

def itemForms : List Value → List Document
  | [] => []
  | item :: rest => ofValue item :: itemForms rest

def entryForms : List (String × Value) → List Document
  | [] => []
  | (name, item) :: rest => .list [.text name, ofValue item] :: entryForms rest

end

def ofValues (values : List Value) : Document := .list (itemForms values)

def ofEntries (values : Entries Value) : Document := .list (entryForms values)

def ofAnnot (annot : Annot) : Document :=
  .table [("type", .text annot.type), ("values", ofEntries annot.values)]

def ofAnnots (annots : List Annot) : Document := .list (annots.map ofAnnot)

def ofStore (store : Store) : Document := storeTable store.type store.displayName (ofEntries store.values)

def ofMulti (multi : MultiStore) : Document :=
  .list (multi.columns.map fun column => .list [.text column.1, ofValues column.2])

def ofTyped (typed : Typed) : Document := ofValue typed.toValue

def ofType : AttrType → Document
  | .text => .text "String"
  | .boolean => .text "boolean"
  | .long => .text "long"
  | .double => .text "double"
  | .classRef => .text "Class"
  | .enum name => tagged "enum" (.text name)
  | .annot name => tagged "annotation" (.text name)
  | .array element => tagged "array" (ofType element)

def ofMethodRef (ref : MethodRef) : Document :=
  .list [.text ref.owner, .text ref.name, texts ref.parameters]

/-- An element by its text. -/
def ofElement (element : Element) : Document := .text element.display

end Annotations.Wire
