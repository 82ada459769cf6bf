import Annotations.Proofs.Graph.Pruned

/-!
Classes above which no interface is missing. What they lead to is like them, and questions about their
methods have the same answers in the pruned registry.
-/
namespace Annotations
namespace Registry

variable {reg : Registry} {name : String}

/-- Every interface named by a class, or by what stands above it, is registered. -/
def Sheltered (reg : Registry) (name : String) : Prop :=
  ∀ above decl, above = name ∨ reg.hierarchy.Reaches name above → reg.classDecl above = .ok decl →
    ∀ interface ∈ decl.interfaces, reg.hasClass interface = true

/-- Shelter can be told from names that hierarchy does not lead out of. -/
theorem sheltered_of_closed {nodes : List String} (start : name ∈ nodes)
    (closed : ∀ node ∈ nodes, ∀ next ∈ reg.hierarchy.next node, next ∈ nodes)
    (known : ∀ node ∈ nodes, ∀ interface ∈ (reg.classGraph fun decl => decl.interfaces).next node,
      reg.hasClass interface = true) : reg.Sheltered name := by
  intro above decl reaches there interface mem
  have inside : above ∈ nodes := by
    rcases reaches with rfl | reaches
    · exact start
    · exact reaches.mem_of_closed closed start
  refine known above inside interface ?_
  rw [classGraph_next, there]
  exact mem

theorem Sheltered.above {above : String} (h : reg.Sheltered name)
    (reaches : reg.hierarchy.Reaches name above) : reg.Sheltered above := by
  rintro other decl (rfl | further) known
  · exact h _ decl (.inr reaches) known
  · exact h other decl (.inr (reaches.trans further)) known

/-- What a class names as superclass or interface is sheltered with it. -/
theorem Sheltered.reaches {edges : ClassDecl → List String} {above : String}
    (up : ∀ decl, edges decl ⊆ decl.interfaces ++ supers decl) (h : reg.Sheltered name)
    (reaches : (reg.classGraph edges).Reaches name above) : reg.Sheltered above := by
  refine h.above (reaches.mono fun node above next => ?_)
  rw [classGraph_next] at next
  rw [hierarchy_next]
  split at next
  · exact up _ next
  · cases next

theorem Sheltered.superclass {above : String} (h : reg.Sheltered name)
    (mem : above ∈ reg.superclasses name) : reg.Sheltered above := by
  rw [superclasses_eq] at mem
  obtain ⟨first, next, reached⟩ := Graph.reached_of_mem_preorder mem
  have up (decl : ClassDecl) := List.subset_append_right decl.interfaces (supers decl)
  rcases reached with rfl | further
  · exact h.reaches up (.step next)
  · exact h.reaches up (.cons next further)

theorem Sheltered.interface {decl : ClassDecl} (h : reg.Sheltered name)
    (known : reg.classDecl name = .ok decl) {interface : String}
    (mem : interface ∈ decl.interfaces) :
    reg.hasClass interface = true ∧ reg.Sheltered interface := by
  refine ⟨h name decl (.inl rfl) known interface mem, h.above (.step ?_)⟩
  rw [hierarchy_next, known]
  exact List.mem_append_left _ mem

/-- What a walk over interfaces meets from a sheltered one on is registered. -/
theorem Sheltered.preorder (edges : ClassDecl → List String)
    (up : ∀ decl, edges decl ⊆ decl.interfaces) (h : reg.Sheltered name)
    (start : reg.hasClass name = true) :
    ∀ interface ∈ (reg.classGraph edges).preorder [] [name],
      reg.hasClass interface = true ∧ reg.Sheltered interface := by
  have steps {below above : String} (shelter : reg.Sheltered below)
      (next : above ∈ (reg.classGraph edges).next below) :
      reg.hasClass above = true ∧ reg.Sheltered above := by
    rw [classGraph_next] at next
    split at next
    · rename_i decl known
      exact shelter.interface known (up decl next)
    · cases next
  intro interface met
  obtain ⟨_, first, reached⟩ := Graph.reached_of_mem_preorder met
  cases List.mem_singleton.1 first
  rcases reached with rfl | reaches
  · exact ⟨start, h⟩
  clear start met first
  induction reaches with
  | step next => exact steps h next
  | cons next _ ih => exact ih (steps h next).2

theorem interfacesFromLast_eq (reg : Registry) (name : String) : reg.interfacesFromLast name =
    (reg.classGraph fun decl => decl.interfaces.reverse).preorder [] [name] := by
  simp only [interfacesFromLast, interfaceGraph, classGraph, List.map_map]
  rfl

/-- Questions about the methods of a sheltered interface have the same answer without the classes
that are not registered. -/
theorem Sheltered.pruned_interface (h : reg.Sheltered name) (start : reg.hasClass name = true) :
    reg.pruned.hasAnnotatedMethods name = reg.hasAnnotatedMethods name ∧
      ∀ method parameters, reg.pruned.findInterfaceMethod name method parameters =
        reg.findInterfaceMethod name method parameters := by
  have same (edges : ClassDecl → List String) (up : ∀ decl, edges decl ⊆ decl.interfaces)
      (prunes : ∀ decl, edges (decl.keeping reg.hasClass) = (edges decl).filter reg.hasClass) :
      (reg.pruned.classGraph edges).preorder [] [name] =
        (reg.classGraph edges).preorder [] [name] := by
    have todo : [name] = [name].filter reg.hasClass := by simp [start]
    have walk := pruned_preorder edges prunes [] [name]
    rw [← todo] at walk
    rw [walk]
    exact List.filter_eq_self.2 fun interface met => (h.preorder edges up start interface met).1
  have reversed := same (fun decl => decl.interfaces.reverse) (by simp)
    fun decl => List.filter_reverse.symm
  have forwards : reg.pruned.interfacesFrom name = reg.interfacesFrom name :=
    same (fun decl => decl.interfaces) (by simp) fun _ => rfl
  constructor
  · unfold hasAnnotatedMethods
    rw [interfacesFromLast_eq, interfacesFromLast_eq, reversed, pruned_firstClass? reg fun _ => rfl]
  · intro method parameters
    unfold findInterfaceMethod
    rw [forwards, pruned_firstClass? reg fun _ => rfl]

theorem mem_of_firstClass? {test : ClassDecl → Bool} {names : List String}
    (h : reg.firstClass? test names = .ok (some name)) : name ∈ names := by
  induction names with
  | nil => cases h
  | cons first rest ih =>
    obtain ⟨decl, _, h⟩ := Outcome.bind_ok h
    split at h
    · cases h
      exact .head rest
    · exact .tail first (ih h)

/-- The method that is found from a sheltered interface on belongs to a sheltered one. -/
theorem Sheltered.findInterfaceMethod (h : reg.Sheltered name) (start : reg.hasClass name = true)
    {method : String} {parameters : List String} {found : MethodRef}
    (known : reg.findInterfaceMethod name method parameters = .ok (some found)) :
    reg.Sheltered found.owner := by
  obtain ⟨owner?, first, same⟩ := Outcome.bind_ok known
  cases owner? with
  | none => cases same
  | some owner =>
    cases same
    exact (h.preorder (fun decl => decl.interfaces) (by simp) start owner
      (mem_of_firstClass? first)).2

theorem resolveBridge_owner {ref target : MethodRef} (h : reg.resolveBridge ref = .ok target) :
    target.owner = ref.owner := by
  obtain ⟨decl, _, h⟩ := Outcome.bind_ok h
  split at h
  · cases h
    rfl
  · obtain ⟨_, _, h⟩ := Outcome.bind_ok h
    cases h
    rfl

end Registry
end Annotations
