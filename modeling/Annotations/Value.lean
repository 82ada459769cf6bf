import Annotations.AttrType
import Annotations.Decimal.Shortest
import Annotations.Entries

/-!
Attribute values. An annotation and an attribute store can stand inside a value; both keep their
own values in insertion order.
-/
namespace Annotations

inductive Value where
  | text (content : String)
  | boolean (flag : Bool)
  | long (number : Int64)
  | double (bits : UInt64)
  | classRef (name : String)
  | enum (type constant : String)
  | annot (type : String) (values : List (String × Value))
  | store (type displayName : Option String) (values : List (String × Value))
  | array (items : List Value)
deriving Inhabited, Repr

/-- An annotation of some type with the values it gives explicitly. -/
structure Annot where
  type : String
  values : Entries Value := []
deriving Inhabited, Repr

/-- Resolved attributes, with the annotation type they belong to and a name to show for it. -/
structure Store where
  type : Option String := none
  displayName : Option String := none
  values : Entries Value := []
deriving Inhabited, Repr

abbrev Annot.toValue (annot : Annot) : Value := .annot annot.type annot.values

abbrev Store.toValue (store : Store) : Value := .store store.type store.displayName store.values

namespace Value

def kind : Value → String
  | .text _ => "String"
  | .boolean _ => "boolean"
  | .long _ => "long"
  | .double _ => "double"
  | .classRef _ => "Class"
  | .enum _ _ => "enum"
  | .annot _ _ => "Annotation"
  | .store _ _ _ => "AnnotationAttributes"
  | .array _ => "array"

def text? : Value → Option String
  | .text content => some content
  | _ => none

def items? : Value → Option (List Value)
  | .array items => some items
  | _ => none

mutual

/-- Whether a value may stand where a type is declared. A store without a type fits every nested
annotation type. -/
def conformsTo : Value → AttrType → Bool
  | .text _, .text => true
  | .boolean _, .boolean => true
  | .long _, .long => true
  | .double _, .double => true
  | .classRef _, .classRef => true
  | .enum type _, .enum name => type == name
  | .annot type _, .annot name => type == name
  | .store type _ _, .annot name => type.all (· == name)
  | .array items, .array element => itemsConformTo items element
  | _, _ => false

def itemsConformTo : List Value → AttrType → Bool
  | [], _ => true
  | item :: rest, element => conformsTo item element && itemsConformTo rest element

end

mutual

/-- Equality of values: doubles by their bits, entries without regard to order, stores without
regard to type and display name. -/
def same : Value → Value → Bool
  | .text a, .text b => a == b
  | .boolean a, .boolean b => a == b
  | .long a, .long b => a == b
  | .double a, .double b => a == b
  | .classRef a, .classRef b => a == b
  | .enum type constant, .enum type' constant' => type == type' && constant == constant'
  | .annot type values, .annot type' values' =>
    type == type' && within [] values values' && namesWithin values' values
  | .store _ _ values, .store _ _ values' => within [] values values' && namesWithin values' values
  | .array items, .array items' => sameItems items items'
  | _, _ => false

def sameItems : List Value → List Value → Bool
  | [], [] => true
  | item :: rest, item' :: rest' => same item item' && sameItems rest rest'
  | _, _ => false

/-- Whether every entry whose name was not seen before has an equal one on the other side. -/
def within (seen : List String) : List (String × Value) → List (String × Value) → Bool
  | [], _ => true
  | (name, value) :: rest, others =>
    (seen.contains name ||
      match Entries.get? others name with
      | some other => same value other
      | none => false) && within (name :: seen) rest others

/-- Whether every name of the first entries is one of the second. -/
def namesWithin : List (String × Value) → List (String × Value) → Bool
  | [], _ => true
  | (name, _) :: rest, others => Entries.has others name && namesWithin rest others

end

/-- Equality of optional values. -/
def sameOption : Option Value → Option Value → Bool
  | some a, some b => same a b
  | none, none => true
  | _, _ => false

/-- Equality of entries, without regard to order. -/
def sameEntries (a b : Entries Value) : Bool := within [] a b && namesWithin b a

mutual

/-- A value as text, as messages show it. -/
def display : Value → String
  | .text content => content
  | .boolean flag => toString flag
  | .long number => toString number.toInt
  | .double bits => Decimal.ofDouble bits
  | .classRef name => name
  | .enum _ constant => constant
  | .annot type values => "@" ++ type ++ "(" ++ ", ".intercalate (entryTexts values) ++ ")"
  | .store _ _ values => "\x7b" ++ ", ".intercalate (entryTexts values) ++ "\x7d"
  | .array items => "[" ++ ", ".intercalate (itemTexts items) ++ "]"

def itemTexts : List Value → List String
  | [] => []
  | item :: rest => display item :: itemTexts rest

def entryTexts : List (String × Value) → List String
  | [] => []
  | (name, value) :: rest => (name ++ "=" ++ display value) :: entryTexts rest

end

mutual

/-- How many annotations and stores stand inside one another at most. -/
def depth : Value → Nat
  | .annot _ values => entriesDepth values + 1
  | .store _ _ values => entriesDepth values + 1
  | .array items => itemsDepth items
  | _ => 0

def itemsDepth : List Value → Nat
  | [] => 0
  | item :: rest => max (depth item) (itemsDepth rest)

def entriesDepth : List (String × Value) → Nat
  | [] => 0
  | (_, value) :: rest => max (depth value) (entriesDepth rest)

end

end Value

namespace Annot

/-- The explicit value of an attribute. -/
def value? (annot : Annot) (name : String) : Option Value := annot.values.get? name

def display (annot : Annot) : String := annot.toValue.display

def same (a b : Annot) : Bool := a.toValue.same b.toValue

end Annot
end Annotations
