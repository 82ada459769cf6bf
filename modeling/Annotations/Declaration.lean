import Annotations.Value

/-!
Declarations: annotation types with their attributes and meta-annotations, classes and interfaces
with their methods, and the annotations written on them.
-/
namespace Annotations

/-- The parts of an alias declaration: the annotation type and the attribute aimed at. A part left
out stands for the declaring attribute's own type or name. -/
structure AliasFor where
  type : Option String := none
  attr : Option String := none
deriving DecidableEq, Repr, Inhabited

/-- A declared attribute; without a default every annotation has to give a value. -/
structure Attr where
  name : String
  type : AttrType
  default? : Option Value := none
  aliasFor : Option AliasFor := none
deriving Repr, Inhabited

/-- What an annotation type declares, and the annotations on it. -/
structure AnnotType where
  attrs : List Attr := []
  metas : List Annot := []
deriving Repr, Inhabited

inductive ClassKind where
  | ordinary
  | interface
deriving DecidableEq, Repr, Inhabited

/-- A declared method. A bridge stands in for the method of the same name with other parameters. -/
structure MethodDecl where
  name : String
  parameters : List String := []
  annots : List Annot := []
  bridge : Option (List String) := none
deriving Repr, Inhabited

/-- What a class or interface declares, and the annotations on it. -/
structure ClassDecl where
  kind : ClassKind := .ordinary
  superclass : Option String := none
  interfaces : List String := []
  annots : List Annot := []
  methods : List MethodDecl := []
deriving Repr, Inhabited

/-! Markers that every registry knows. -/

namespace Marker

def space : String := "stele.meta"

def inherited : String := "stele.meta.Inherited"

def documented : String := "stele.meta.Documented"

def retention : String := "stele.meta.Retention"

end Marker

/-- The attribute name that overrides nothing by its name alone. -/
def valueAttr : String := "value"

namespace AnnotType

/-- The first attribute of a name. -/
def attr? (type : AnnotType) (name : String) : Option Attr := type.attrs.find? (·.name == name)

def default? (type : AnnotType) (name : String) : Option Value := (type.attr? name).bind (·.default?)

/-- The types of the annotations on the type, in order. -/
def metaTypes (type : AnnotType) : List String := type.metas.map (·.type)

/-- Whether subclasses inherit annotations of the type. -/
def isInherited (type : AnnotType) : Bool := type.metaTypes.contains Marker.inherited

end AnnotType

namespace ClassDecl

/-- The first method of a signature. -/
def method? (decl : ClassDecl) (name : String) (parameters : List String) : Option MethodDecl :=
  decl.methods.find? fun method => method.name == name && method.parameters == parameters

def hasAnnotatedMethod (decl : ClassDecl) : Bool := decl.methods.any fun method => !method.annots.isEmpty

end ClassDecl
end Annotations
