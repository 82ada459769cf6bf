import Annotations.Declaration
import Annotations.Element
import Annotations.Error
import Annotations.Graph

/-!
The registry of annotation types and classes, and what follows from their declarations alone:
inherited annotations, bridge targets and look-ups among interfaces.
-/
namespace Annotations

structure Registry where
  types : Entries AnnotType
  classes : Entries ClassDecl
deriving Inhabited

namespace Registry

/-- Registers an annotation type under a name, in place of an earlier one. -/
def addType (reg : Registry) (name : String) (type : AnnotType) : Registry :=
  { reg with types := reg.types.put name type }

def addClass (reg : Registry) (name : String) (decl : ClassDecl) : Registry :=
  { reg with classes := reg.classes.put name decl }

/-- The registry that knows the markers only. -/
def base : Registry where
  types :=
    [(Marker.inherited, { metas := [⟨Marker.documented, []⟩] }),
      (Marker.documented, { metas := [⟨Marker.documented, []⟩] }),
      (Marker.retention,
        { metas := [⟨Marker.documented, []⟩],
          attrs := [{ name := valueAttr, type := .enum "stele.meta.RetentionPolicy" }] })]
  classes := []

def type (reg : Registry) (name : String) : Except Error AnnotType :=
  match reg.types.get? name with
  | some type => .ok type
  | none => .error (.unknownAnnotType name)

theorem mem_of_type {reg : Registry} {name : String} {decl : AnnotType}
    (h : reg.type name = .ok decl) : (name, decl) ∈ reg.types := by
  unfold type at h
  split at h
  · rename_i found known
    cases h
    exact Entries.mem_of_get? known
  · cases h

def hasType (reg : Registry) (name : String) : Bool := reg.types.has name

def typeNames (reg : Registry) : List String := reg.types.names

def classDecl (reg : Registry) (name : String) : Except Error ClassDecl :=
  match reg.classes.get? name with
  | some decl => .ok decl
  | none => .error (.unknownClass name)

def method (reg : Registry) (ref : MethodRef) : Except Error MethodDecl := do
  let decl ← reg.classDecl ref.owner
  match decl.method? ref.name ref.parameters with
  | some method => .ok method
  | none => .error (.unknownMethod ref.display)

/-- The annotations written on an element, for an annotation type its meta-annotations. -/
def declaredAnnots (reg : Registry) : Element → Except Error (List Annot)
  | .classLike name => return (← reg.classDecl name).annots
  | .method ref => return (← reg.method ref).annots
  | .annotType name => return (← reg.type name).metas

/-- From each annotation type to the types of its meta-annotations. -/
def metaGraph (reg : Registry) : Graph := reg.types.map fun entry => (entry.1, entry.2.metaTypes)

def superclassGraph (reg : Registry) : Graph :=
  reg.classes.map fun entry => (entry.1, entry.2.superclass.toList)

def interfaceGraph (reg : Registry) : Graph := reg.classes.map fun entry => (entry.1, entry.2.interfaces)

/-- The superclasses above a class, nearest first and each once. The chain ends where it would come
back on itself; only its last name can be unknown. -/
def superclasses (reg : Registry) (name : String) : List String :=
  reg.superclassGraph.preorder [name] (reg.superclassGraph.next name)

/-- An interface and all it extends, nearest declaration order first. -/
def interfacesFrom (reg : Registry) (start : String) : List String :=
  reg.interfaceGraph.preorder [] [start]

/-- Adds those annotations whose type is inherited and not there yet. -/
def addInherited (reg : Registry) (hidden : List String) :
    List Annot → List Annot → Except Error (List Annot)
  | found, [] => return found
  | found, annot :: rest => do
    if hidden.contains annot.type || found.any (·.type == annot.type) then
      reg.addInherited hidden found rest
    else if (← reg.type annot.type).isInherited then
      reg.addInherited hidden (found ++ [annot]) rest
    else
      reg.addInherited hidden found rest

/-- The annotations a class takes over from its superclasses: those of an inherited type, from the
nearest superclass that has one, unless the class has one of its own. -/
def inheritedAnnots (reg : Registry) (name : String) : Except Error (List Annot) := do
  let decl ← reg.classDecl name
  let hidden := decl.annots.map (·.type)
  (reg.superclasses name).foldlM
    (fun found above => do reg.addInherited hidden found (← reg.classDecl above).annots) []

/-- The method itself, or the one that a bridge stands in for. -/
def resolveBridge (reg : Registry) (ref : MethodRef) : Except Error MethodRef := do
  let decl ← reg.method ref
  match decl.bridge with
  | none => return ref
  | some parameters =>
    let target := { ref with parameters }
    let _ ← reg.method target
    return target

/-- The first name for which a test holds; a name without a class ends the look-up. -/
def firstClass? (reg : Registry) (test : ClassDecl → Bool) : List String → Except Error (Option String)
  | [] => return none
  | name :: rest => do
    if test (← reg.classDecl name) then return some name
    reg.firstClass? test rest

/-- The method of a signature on an interface or the nearest interface it extends. -/
def findInterfaceMethod (reg : Registry) (start name : String) (parameters : List String) :
    Except Error (Option MethodRef) := do
  let owner? ← reg.firstClass? (fun decl => (decl.method? name parameters).isSome)
    (reg.interfacesFrom start)
  return owner?.map fun owner => { owner, name, parameters }

/-- An interface and all it extends, the last declared first. -/
def interfacesFromLast (reg : Registry) (start : String) : List String :=
  Graph.preorder (reg.interfaceGraph.map fun entry => (entry.1, entry.2.reverse)) [] [start]

/-- Whether some method on the interface or on one it extends has an annotation. -/
def hasAnnotatedMethods (reg : Registry) (start : String) : Except Error Bool :=
  return (← reg.firstClass? ClassDecl.hasAnnotatedMethod (reg.interfacesFromLast start)).isSome

end Registry
end Annotations
