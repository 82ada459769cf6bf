import Annotations.Proofs.Graph.FirstMatch

/-!
Interfaces without annotated methods. Those that they extend have none either, so where interfaces
have no superclass a method of theirs leads to methods without annotations only.
-/
namespace Annotations
namespace Registry

variable {reg : Registry} {name interface above : String} {parameters : List String}
  {ref there : MethodRef}

/-- Some class or interface names it as an interface. -/
def IsNamed (reg : Registry) (interface : String) : Prop :=
  ∃ name, interface ∈ reg.interfaceGraph.next name

/-- What is named as an interface has no superclass. -/
def InterfacesRootless (reg : Registry) : Prop :=
  ∀ interface decl, reg.IsNamed interface → reg.classDecl interface = .ok decl →
    decl.superclass = none

/-- An interface without annotated methods, on itself and on all that it extends. -/
structure Barren (reg : Registry) (interface : String) : Prop where
  named : reg.IsNamed interface
  bare : reg.hasAnnotatedMethods interface = .ok false

theorem InterfacesRootless.of_classes
    (h : ∀ entry ∈ reg.classes, ∀ interface ∈ entry.2.interfaces,
      (reg.classDecl interface).toOption.all fun decl => decl.superclass.isNone) :
    reg.InterfacesRootless := by
  rintro interface decl ⟨name, next⟩ known
  obtain ⟨above, known', mem⟩ := mem_interfaceGraph_next.1 next
  have rootless := h _ (Entries.mem_of_get? (classDecl_eq_ok_iff.1 known')) interface mem
  simpa [known, Except.toOption] using rootless

theorem InterfacesRootless.superclasses (h : reg.InterfacesRootless)
    (named : reg.IsNamed interface) : reg.superclasses interface = [] := by
  have rootless : (reg.classGraph supers).next interface = [] := by
    rw [classGraph_next]
    cases known : reg.classDecl interface with
    | error e => rfl
    | ok decl => simp [supers, h interface decl named known]
  rw [superclasses_eq, rootless, Graph.preorder]

section

variable (known : reg.HierarchyKnown)

include known

theorem HierarchyKnown.named (named : reg.IsNamed interface) : reg.hasClass interface = true :=
  known.extended named.choose_spec

/-- What an interface without annotated methods extends has none. -/
theorem HierarchyKnown.barren_above (barren : reg.Barren interface)
    (way : reg.interfaceGraph.Reaches interface above) : reg.Barren above := by
  have named : reg.IsNamed above := by
    obtain ⟨last, _, next⟩ := Graph.mem_next_preorder_iff.2 way
    exact ⟨last, next⟩
  refine ⟨named, ?_⟩
  have bare := barren.bare
  rw [(known.interface (known.named barren.named)).1, Except.ok.injEq, Option.isSome_eq_false_iff,
    Option.isNone_iff_eq_none, List.find?_eq_none] at bare
  rw [(known.interface (known.named named)).1, Except.ok.injEq, Option.isSome_eq_false_iff,
    Option.isNone_iff_eq_none, List.find?_eq_none]
  intro other mem
  refine bare other (mem_interfacesFromLast_iff.2 (.inr ?_))
  rcases mem_interfacesFromLast_iff.1 mem with rfl | further
  · exact way
  · exact way.trans further

/-- The method that is found on an interface without annotated methods is on another such. -/
theorem HierarchyKnown.barren_found (barren : reg.Barren interface)
    (found : reg.findInterfaceMethod interface name parameters = .ok (some there)) :
    reg.Barren there.owner := by
  rcases findInterfaceMethod_reached found with same | way
  · exact same ▸ barren
  · exact known.barren_above barren way

/-- Its methods have no annotations. -/
theorem HierarchyKnown.barren_annots (barren : reg.Barren ref.owner) {decl : MethodDecl}
    (declared : reg.method ref = .ok decl) : decl.annots = [] := by
  refine List.eq_nil_iff_forall_not_mem.2 fun annot mem => ?_
  have annotated := known.annotated (known.named barren.named) (.inl rfl) declared mem
  cases barren.bare.symm.trans annotated

end

end Registry
end Annotations
