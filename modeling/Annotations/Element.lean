/-!
Annotated elements: classes, methods and annotation types.
-/
namespace Annotations

/-- A method by its declaring class, name and parameter types. -/
structure MethodRef where
  owner : String
  name : String
  parameters : List String := []
deriving DecidableEq, Repr, Inhabited

namespace MethodRef

/-- The same signature on another class. -/
def onClass (method : MethodRef) (owner : String) : MethodRef := { method with owner }

def display (method : MethodRef) : String :=
  method.owner ++ "." ++ method.name ++ "(" ++ ", ".intercalate method.parameters ++ ")"

end MethodRef

inductive Element where
  | classLike (name : String)
  | method (ref : MethodRef)
  | annotType (name : String)
deriving DecidableEq, Repr, Inhabited

namespace Element

def isAnnotType : Element → Bool
  | .annotType _ => true
  | _ => false

def kind : Element → String
  | .classLike _ => "class"
  | .method _ => "method"
  | .annotType _ => "annotation_type"

def display : Element → String
  | .classLike name => "class " ++ name
  | .method ref => "method " ++ ref.display
  | .annotType name => "annotation type @" ++ name

/-- Order of texts by code points. -/
def compareText (a b : String) : Ordering := compareOfLessAndEq a b

def compareTexts : List String → List String → Ordering
  | [], [] => .eq
  | [], _ :: _ => .lt
  | _ :: _, [] => .gt
  | a :: as, b :: bs => (compareText a b).then (compareTexts as bs)

def compareMethods (a b : MethodRef) : Ordering :=
  ((compareText a.owner b.owner).then (compareText a.name b.name)).then
    (compareTexts a.parameters b.parameters)

/-- Classes before methods before annotation types, then field by field. -/
def compare : Element → Element → Ordering
  | .classLike a, .classLike b => compareText a b
  | .classLike _, _ => .lt
  | .method _, .classLike _ => .gt
  | .method a, .method b => compareMethods a b
  | .method _, .annotType _ => .lt
  | .annotType a, .annotType b => compareText a b
  | .annotType _, _ => .gt

end Element
end Annotations
