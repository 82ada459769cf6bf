import Annotations.Action
import Annotations.Registry

/-!
Classes and interfaces as a graph, from each to the interfaces and the superclass it names, annotation
types as one, and the elements that a registry declares.
-/
namespace Annotations

namespace Registry

variable {reg : Registry}

/-- From each class or interface to some of the names that it declares. -/
def classGraph (reg : Registry) (edges : ClassDecl → List String) : Graph :=
  reg.classes.map fun entry => (entry.1, edges entry.2)

/-- From each class or interface to the interfaces and the superclass it names. -/
def hierarchy (reg : Registry) : Graph :=
  reg.classGraph fun decl => decl.interfaces ++ decl.superclass.toList

theorem classDecl_eq_ok_iff {name : String} {decl : ClassDecl} :
    reg.classDecl name = .ok decl ↔ reg.classes.get? name = some decl := by
  unfold classDecl
  split
  · rename_i found known
    simp [known]
  · rename_i unknown
    simp [unknown]

theorem classGraph_next (reg : Registry) (edges : ClassDecl → List String) (name : String) :
    (reg.classGraph edges).next name = match reg.classDecl name with
      | .ok decl => edges decl
      | .error _ => [] := by
  unfold classGraph Graph.next classDecl
  rw [Entries.get?_map]
  cases reg.classes.get? name with
  | none => rfl
  | some decl => rfl

theorem hierarchy_next (reg : Registry) (name : String) :
    reg.hierarchy.next name = match reg.classDecl name with
      | .ok decl => decl.interfaces ++ decl.superclass.toList
      | .error _ => [] :=
  reg.classGraph_next _ name

theorem metaGraph_next (reg : Registry) (name : String) :
    reg.metaGraph.next name = match reg.type name with
      | .ok decl => decl.metaTypes
      | .error _ => [] := by
  unfold metaGraph Graph.next type
  rw [Entries.get?_map]
  cases reg.types.get? name with
  | none => rfl
  | some decl => rfl

/-- All annotation types, classes and methods that are declared. -/
def elements (reg : Registry) : List Element :=
  reg.types.map (fun entry => .annotType entry.1) ++
    reg.classes.flatMap fun entry => .classLike entry.1 ::
      entry.2.methods.map fun method => .method ⟨entry.1, method.name, method.parameters⟩

theorem annotType_mem_elements {name : String} :
    .annotType name ∈ reg.elements ↔ name ∈ reg.typeNames := by
  simp [elements, typeNames, Entries.names]

theorem classLike_mem_elements {name : String} {decl : ClassDecl}
    (h : reg.classDecl name = .ok decl) : .classLike name ∈ reg.elements := by
  have mem := Entries.mem_of_get? (classDecl_eq_ok_iff.1 h)
  refine List.mem_append_right _ (List.mem_flatMap.2 ⟨_, mem, ?_⟩)
  exact .head _

theorem method_mem_elements {ref : MethodRef} {decl : MethodDecl} (h : reg.method ref = .ok decl) :
    .method ref ∈ reg.elements := by
  obtain ⟨owner, known, found⟩ := Outcome.bind_ok h
  have mem := Entries.mem_of_get? (classDecl_eq_ok_iff.1 known)
  split at found
  · rename_i method declared
    have there := List.mem_of_find?_eq_some declared
    have same := List.find?_some declared
    simp only [Bool.and_eq_true, beq_iff_eq] at same
    refine List.mem_append_right _ (List.mem_flatMap.2 ⟨_, mem, .tail _ ?_⟩)
    refine List.mem_map.2 ⟨method, there, ?_⟩
    rw [same.1, same.2]
  · cases found

/-- What has declared annotations is declared itself. -/
theorem mem_elements_of_declared {element : Element} {annots : List Annot}
    (h : reg.declaredAnnots element = .ok annots) : element ∈ reg.elements := by
  cases element with
  | classLike name =>
    obtain ⟨decl, known, _⟩ := Outcome.bind_ok h
    exact classLike_mem_elements known
  | method ref =>
    obtain ⟨decl, known, _⟩ := Outcome.bind_ok h
    exact method_mem_elements known
  | annotType name =>
    obtain ⟨decl, known, _⟩ := Outcome.bind_ok h
    have mem := mem_of_type known
    exact annotType_mem_elements.2 (List.mem_map.2 ⟨_, mem, rfl⟩)

end Registry
end Annotations
