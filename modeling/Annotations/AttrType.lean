/-!
The types an attribute can declare.
-/
namespace Annotations

inductive AttrType where
  | text
  | boolean
  | long
  | double
  | classRef
  | enum (name : String)
  | annot (name : String)
  | array (element : AttrType)
deriving DecidableEq, Repr, Inhabited

namespace AttrType

def element? : AttrType → Option AttrType
  | .array element => some element
  | _ => none

/-- The annotation type of a nested annotation or of an array of them; no deeper array counts. -/
def nested? : AttrType → Option String
  | .annot name => some name
  | .array (.annot name) => some name
  | _ => none

def display : AttrType → String
  | .text => "String"
  | .boolean => "boolean"
  | .long => "long"
  | .double => "double"
  | .classRef => "Class"
  | .enum name => "enum " ++ name
  | .annot name => "@" ++ name
  | .array element => element.display ++ "[]"

end AttrType
end Annotations
