import Annotations.Declaration
import Annotations.Store

/-!
Typed values: what a value is read as, and how a typed value is written back. A schema describes a
record of named fields that an annotation is read into.
-/
namespace Annotations

/-- A value read at some kind. -/
inductive Typed where
  | any (value : Value)
  | text (content : String)
  | boolean (flag : Bool)
  | long (number : Int64)
  | int (number : Int32)
  | double (bits : UInt64)
  | classRef (name : String)
  | enum (type constant : String)
  | annot (nested : Annot)
  | store (nested : Store)
  | record (schema : String) (fields : List (String × Typed))
  | list (items : List Typed)
deriving Inhabited, Repr

mutual

/-- What a typed read asks for. -/
inductive Kind where
  | any
  | text
  | boolean
  | long
  | int
  | double
  | classRef
  /-- A class given as such or by its name. -/
  | className
  | enum
  | annot
  | store
  | record (schema : Schema)
  | list (item : Kind)

/-- An annotation type described by the record it is read into. -/
structure Schema where
  name : String
  inherited : Bool
  metas : List String
  fields : List Field

/-- An attribute of a schema; without a default it is required. -/
structure Field where
  name : String
  kind : Kind
  default? : Option Typed
  aliasFor : Option AliasFor

end

namespace Typed

mutual

/-- A typed value as an attribute value; a record becomes an annotation of its schema. -/
def toValue : Typed → Value
  | .any value => value
  | .text content => .text content
  | .boolean flag => .boolean flag
  | .long number => .long number
  | .int number => .long number.toInt64
  | .double bits => .double bits
  | .classRef name => .classRef name
  | .enum type constant => .enum type constant
  | .annot nested => nested.toValue
  | .store nested => nested.toValue
  | .record schema fields => .annot schema (Entries.ofPairs (fieldValues fields))
  | .list items => .array (itemValues items)

def itemValues : List Typed → List Value
  | [] => []
  | item :: rest => toValue item :: itemValues rest

def fieldValues : List (String × Typed) → List (String × Value)
  | [] => []
  | (name, item) :: rest => (name, toValue item) :: fieldValues rest

end

end Typed

namespace Kind

/-- The name of a kind in messages. -/
def expected : Kind → String
  | .any => "any"
  | .text => "String"
  | .boolean => "boolean"
  | .long => "long"
  | .int => "int"
  | .double => "double"
  | .classRef | .className => "Class"
  | .enum => "enum"
  | .annot => "Annotation"
  | .store => "AnnotationAttributes"
  | .record schema => schema.name
  | .list item => item.expected ++ "[]"

/-- The attribute type that a field of this kind declares, for the kinds that can be declared. -/
def declared? : Kind → Option AttrType
  | .text => some .text
  | .boolean => some .boolean
  | .long | .int => some .long
  | .double => some .double
  | .classRef => some .classRef
  | .record schema => some (.annot schema.name)
  | .list item => item.declared?.map .array
  | _ => none

end Kind

/-- A whole number that fits 32 bits. -/
def narrow? (number : Int64) : Option Int32 :=
  if number.toInt32.toInt64 = number then some number.toInt32 else none

/-- A class by reference or by name. -/
def classNamed? : Value → Option Typed
  | .classRef name => some (.classRef name)
  | .text name => some (.classRef name)
  | _ => none

/-- Reads each item, or none at all. -/
def readItems (read : Value → Option Typed) : List Value → Option (List Typed)
  | [] => some []
  | item :: rest => do
    let head ← read item
    let tail ← readItems read rest
    return head :: tail

mutual

/-- Reads a value at a kind. A list is read from an array item by item and from a single value as
its only item; a record from a store or an annotation. -/
def Kind.read : Kind → Value → Option Typed
  | .any, value => some (.any value)
  | .text, .text content => some (.text content)
  | .boolean, .boolean flag => some (.boolean flag)
  | .long, .long number => some (.long number)
  | .int, .long number => (narrow? number).map .int
  | .double, .double bits => some (.double bits)
  | .classRef, .classRef name => some (.classRef name)
  | .className, value => classNamed? value
  | .enum, .enum type constant => some (.enum type constant)
  | .annot, .annot type values => some (.annot ⟨type, values⟩)
  | .store, .store type displayName values => some (.store ⟨type, displayName, values⟩)
  | .store, .annot type values => some (.store (Store.ofAnnot ⟨type, values⟩))
  | .record schema, .store type displayName values =>
    (schema.ofStore ⟨type, displayName, values⟩).toOption
  | .record schema, .annot type values => (schema.ofStore (Store.ofAnnot ⟨type, values⟩)).toOption
  | .list item, .array items => (readItems item.read items).map .list
  | .list item, value => (item.read value).map fun only => .list [only]
  | _, _ => none

/-- Reads a store into a schema's record, field by field. -/
def Schema.ofStore : Schema → Store → Except Error Typed
  | ⟨name, _, _, fields⟩, store => do
    let read ← readFields fields store
    return .record name read

def readFields : List Field → Store → Except Error (List (String × Typed))
  | [], _ => return []
  | field :: rest, store => do
    let value ← field.ofStore store
    let values ← readFields rest store
    return (field.name, value) :: values

/-- The attribute's value, or the default where the store has none. -/
def Field.ofStore : Field → Store → Except Error Typed
  | ⟨name, kind, default?, _⟩, store =>
    match store.get? name, default? with
    | some value, _ =>
      match kind.read value with
      | some read => .ok read
      | none => .error (.attributeTypeMismatch name store.shownName kind.expected value.kind)
    | none, some fallback => .ok fallback
    | none, none => .error (.attributeNotFound name store.shownName)

end

namespace Store

/-- A value of the store read at a kind. -/
def readAs (store : Store) (name : String) (kind : Kind) (value : Value) : Except Error Typed :=
  match kind.read value with
  | some read => .ok read
  | none => .error (.attributeTypeMismatch name store.shownName kind.expected value.kind)

/-- The value of an attribute that has to be there. -/
def required (store : Store) (kind : Kind) (name : String) : Except Error Typed := do
  store.readAs name kind (← store.get name)

/-- The value of an attribute that may be missing. -/
def optional (store : Store) (kind : Kind) (name : String) : Except Error (Option Typed) :=
  match store.get? name with
  | some value => some <$> store.readAs name kind value
  | none => .ok none

end Store

/-- The declaration of a schema's attribute, if its kind can be declared. -/
def Field.attr? (field : Field) : Option Attr :=
  field.kind.declared?.map fun type =>
    { name := field.name, type, default? := field.default?.map Typed.toValue, aliasFor := field.aliasFor }

/-- The annotation type a schema registers: the inherited marker, if any, before its other metas. -/
def Schema.annotType? (schema : Schema) : Option AnnotType := do
  let attrs ← schema.fields.mapM Field.attr?
  let marker := if schema.inherited then [Marker.inherited] else []
  return { attrs, metas := (marker ++ schema.metas).map fun name => ⟨name, []⟩ }

end Annotations
