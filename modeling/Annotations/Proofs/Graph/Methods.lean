import Annotations.Proofs.Graph.Sheltered

/-!
How a method leads to others: a bridge to the method it stands in for, and a method to those of its
signature on the superclasses of its class and on the interfaces named there. What keeps a search from
going on is a question without an answer, and in a registry where classes and bridge targets are known
there is none.
-/
namespace Annotations
namespace Registry

/-- A class and the superclasses above it. -/
def lineage (reg : Registry) (name : String) : List String := name :: reg.superclasses name

/-- The method of its signature that a method leads to on an interface with annotated methods. -/
structure Implements (reg : Registry) (ref : MethodRef) (interface : String) (there : MethodRef) :
    Prop where
  annotated : reg.hasAnnotatedMethods interface = .ok true
  found : reg.findInterfaceMethod interface ref.name ref.parameters = .ok (some there)

/-- The methods that a method leads to: the bridged one, those of its signature that are found on the
interfaces of its class and of the superclasses, and those that it overrides. -/
inductive Leads (reg : Registry) (ref : MethodRef) : MethodRef → Prop
  | bridged {there : MethodRef} : reg.resolveBridge ref = .ok there → reg.Leads ref there
  | implemented {above interface : String} {decl : ClassDecl} {there : MethodRef} :
    above ∈ reg.lineage ref.owner → reg.classDecl above = .ok decl → interface ∈ decl.interfaces →
    reg.Implements ref interface there → reg.Leads ref there
  | overridden {above : String} {there : MethodRef} : above ∈ reg.superclasses ref.owner →
    reg.resolveBridge (ref.onClass above) = .ok there → reg.Leads ref there

/-- All questions that are asked about a method have answers. -/
structure Unhindered (reg : Registry) (ref : MethodRef) : Prop where
  bridge : ∃ there, reg.resolveBridge ref = .ok there
  lineage : ∀ above ∈ reg.lineage ref.owner, ∃ decl, reg.classDecl above = .ok decl
  annotated : ∀ above ∈ reg.lineage ref.owner, ∀ decl, reg.classDecl above = .ok decl →
    ∀ interface ∈ decl.interfaces, ∃ annotated, reg.hasAnnotatedMethods interface = .ok annotated
  equivalent : ∀ above ∈ reg.lineage ref.owner, ∀ decl, reg.classDecl above = .ok decl →
    ∀ interface ∈ decl.interfaces,
      ∃ found, reg.findInterfaceMethod interface ref.name ref.parameters = .ok found
  overridden : ∀ above ∈ reg.superclasses ref.owner, ∀ decl,
    reg.method (ref.onClass above) = .ok decl →
    ∃ there, reg.resolveBridge (ref.onClass above) = .ok there

/-- A method leads to another one and no question keeps a search from going there. -/
structure SurelyLeads (reg : Registry) (ref there : MethodRef) : Prop where
  answers : reg.Unhindered ref
  leads : reg.Leads ref there

/-- Every superclass and interface that a registered class names is registered. -/
def HierarchyKnown (reg : Registry) : Prop :=
  ∀ name decl, reg.classDecl name = .ok decl →
    ∀ above ∈ decl.interfaces ++ supers decl, reg.hasClass above = true

/-- Every bridge of a signature stands in for a method that its class declares. -/
def BridgesLand (reg : Registry) (name : String) (parameters : List String) : Prop :=
  ∀ owner decl target, reg.method ⟨owner, name, parameters⟩ = .ok decl → decl.bridge = some target →
    ∃ bridged, reg.method ⟨owner, name, target⟩ = .ok bridged

variable {reg : Registry} {ref there : MethodRef} {name above : String} {parameters : List String}
  {decl : MethodDecl} {test : ClassDecl → Bool} {names : List String}

theorem hasClass_iff : reg.hasClass name = true ↔ ∃ decl, reg.classDecl name = .ok decl := by
  simp only [hasClass, Entries.has, classDecl_eq_ok_iff, Option.isSome_iff_exists]

theorem method_eq_ok_iff : reg.method ref = .ok decl ↔
    ∃ owner, reg.classDecl ref.owner = .ok owner ∧
      owner.method? ref.name ref.parameters = some decl := by
  unfold method
  cases known : reg.classDecl ref.owner with
  | error e => simp [bind, Except.bind]
  | ok owner => cases own : owner.method? ref.name ref.parameters <;> simp [bind, Except.bind, own]

theorem resolveBridge_of_plain (declared : reg.method ref = .ok decl) (plain : decl.bridge = none) :
    reg.resolveBridge ref = .ok ref := by
  simp [resolveBridge, declared, plain, bind, Except.bind, pure, Except.pure]

theorem resolveBridge_of_bridge {target : MethodDecl} (declared : reg.method ref = .ok decl)
    (bridges : decl.bridge = some parameters)
    (lands : reg.method { ref with parameters } = .ok target) :
    reg.resolveBridge ref = .ok { ref with parameters } := by
  simp [resolveBridge, declared, bridges, lands, bind, Except.bind, pure, Except.pure]

theorem BridgesLand.resolveBridge (lands : reg.BridgesLand ref.name ref.parameters)
    (declared : reg.method ref = .ok decl) : ∃ there, reg.resolveBridge ref = .ok there := by
  cases bridges : decl.bridge with
  | none => exact ⟨ref, resolveBridge_of_plain declared bridges⟩
  | some target =>
    obtain ⟨_, bridged⟩ := lands ref.owner decl target declared bridges
    exact ⟨_, resolveBridge_of_bridge declared bridges bridged⟩

/-! What methods lead to is declared. -/

theorem resolveBridge_declared (h : reg.resolveBridge ref = .ok there) :
    ∃ decl, reg.method there = .ok decl := by
  obtain ⟨decl, declared, h⟩ := Outcome.bind_ok h
  split at h
  · cases h
    exact ⟨decl, declared⟩
  · obtain ⟨target, bridged, h⟩ := Outcome.bind_ok h
    cases h
    exact ⟨target, bridged⟩

theorem test_of_firstClass? (h : reg.firstClass? test names = .ok (some name)) :
    ∃ decl, reg.classDecl name = .ok decl ∧ test decl = true := by
  induction names with
  | nil => cases h
  | cons first rest ih =>
    obtain ⟨decl, known, h⟩ := Outcome.bind_ok h
    split at h
    · rename_i holds
      cases h
      exact ⟨decl, known, holds⟩
    · exact ih h

theorem findInterfaceMethod_some
    (h : reg.findInterfaceMethod above name parameters = .ok (some there)) :
    there.name = name ∧ there.parameters = parameters ∧ ∃ decl, reg.method there = .ok decl := by
  obtain ⟨owner?, first, h⟩ := Outcome.bind_ok h
  cases owner? with
  | none => cases h
  | some owner =>
    cases h
    obtain ⟨decl, known, own⟩ := test_of_firstClass? first
    obtain ⟨method, own⟩ := Option.isSome_iff_exists.1 own
    exact ⟨rfl, rfl, method, method_eq_ok_iff.2 ⟨decl, known, own⟩⟩

theorem Leads.declared (h : reg.Leads ref there) : ∃ decl, reg.method there = .ok decl := by
  cases h with
  | bridged bridge => exact resolveBridge_declared bridge
  | implemented _ _ _ implements => exact (findInterfaceMethod_some implements.found).2.2
  | overridden _ bridge => exact resolveBridge_declared bridge

/-! Where all names are registered, questions have answers. -/

theorem firstClass?_of_known (known : ∀ name ∈ names, reg.hasClass name = true) :
    reg.firstClass? test names =
      .ok (names.find? fun name => (reg.classDecl name).toOption.any test) := by
  induction names with
  | nil => rfl
  | cons first rest ih =>
    obtain ⟨decl, declared⟩ := hasClass_iff.1 (known first (.head rest))
    have later := ih fun other mem => known other (.tail first mem)
    simp only [firstClass?, declared, later, List.find?_cons]
    cases holds : test decl <;> simp [bind, Except.bind, Except.toOption, pure, Except.pure, holds]

theorem HierarchyKnown.reaches {edges : ClassDecl → List String}
    (up : ∀ decl, edges decl ⊆ decl.interfaces ++ supers decl) (h : reg.HierarchyKnown)
    (reaches : (reg.classGraph edges).Reaches name above) : reg.hasClass above = true := by
  induction reaches with
  | step next =>
    rw [classGraph_next] at next
    split at next
    · rename_i decl known
      exact h _ decl known _ (up decl next)
    · cases next
  | cons _ _ ih => exact ih

theorem HierarchyKnown.sheltered (h : reg.HierarchyKnown) (name : String) : reg.Sheltered name :=
  fun _ decl _ known _ mem => h _ decl known _ (List.mem_append_left _ mem)

theorem HierarchyKnown.superclass (h : reg.HierarchyKnown) (mem : above ∈ reg.superclasses name) :
    reg.hasClass above = true := by
  have up (decl : ClassDecl) := List.subset_append_right decl.interfaces (supers decl)
  rw [superclasses_eq] at mem
  obtain ⟨first, next, reached⟩ := Graph.reached_of_mem_preorder mem
  rcases reached with rfl | further
  · exact h.reaches up (.step next)
  · exact h.reaches up further

/-- Questions about an interface that is named somewhere have answers. -/
theorem HierarchyKnown.interface (h : reg.HierarchyKnown) (known : reg.hasClass name = true) :
    reg.hasAnnotatedMethods name = .ok ((reg.interfacesFromLast name).find? fun other =>
        (reg.classDecl other).toOption.any ClassDecl.hasAnnotatedMethod).isSome ∧
      ∀ method parameters, reg.findInterfaceMethod name method parameters =
        .ok (((reg.interfacesFrom name).find? fun other => (reg.classDecl other).toOption.any
          fun decl => (decl.method? method parameters).isSome).map
            fun owner => ⟨owner, method, parameters⟩) := by
  have shelter := h.sheltered name
  have last : ∀ other ∈ reg.interfacesFromLast name, reg.hasClass other = true := by
    rw [interfacesFromLast_eq]
    exact fun other mem => (shelter.preorder _ (by simp) known other mem).1
  have first : ∀ other ∈ reg.interfacesFrom name, reg.hasClass other = true :=
    fun other mem => (shelter.preorder (fun decl => decl.interfaces) (by simp) known other mem).1
  constructor
  · rw [hasAnnotatedMethods, firstClass?_of_known last]
    rfl
  · intro method parameters
    rw [findInterfaceMethod, firstClass?_of_known first]
    rfl

/-- All questions about a declared method have answers where the classes that are named and the targets
of bridges are known. -/
theorem HierarchyKnown.unhindered (h : reg.HierarchyKnown)
    (lands : reg.BridgesLand ref.name ref.parameters) (declared : reg.method ref = .ok decl) :
    reg.Unhindered ref := by
  have lineage : ∀ above ∈ reg.lineage ref.owner, ∃ decl, reg.classDecl above = .ok decl := by
    intro above mem
    rcases List.mem_cons.1 mem with rfl | mem
    · obtain ⟨owner, known, _⟩ := method_eq_ok_iff.1 declared
      exact ⟨owner, known⟩
    · exact hasClass_iff.1 (h.superclass mem)
  have interfaces (above : String) (decl : ClassDecl) (known : reg.classDecl above = .ok decl)
      (interface : String) (mem : interface ∈ decl.interfaces) :=
    h.interface (h above decl known interface (List.mem_append_left _ mem))
  constructor
  · exact lands.resolveBridge declared
  · exact lineage
  · intro above _ decl known interface mem
    exact ⟨_, (interfaces above decl known interface mem).1⟩
  · intro above _ decl known interface mem
    exact ⟨_, (interfaces above decl known interface mem).2 _ _⟩
  · intro above _ decl declared
    exact @BridgesLand.resolveBridge reg (ref.onClass above) decl lands declared

/-! Both conditions can be told from the declarations. -/

theorem HierarchyKnown.of_classes
    (h : ∀ entry ∈ reg.classes, ∀ above ∈ entry.2.interfaces ++ supers entry.2,
      reg.hasClass above = true) : reg.HierarchyKnown :=
  fun _ _ known => h _ (Entries.mem_of_get? (classDecl_eq_ok_iff.1 known))

theorem bridgesLand_of_classes
    (h : ∀ entry ∈ reg.classes, ∀ decl ∈ entry.2.methods, ∀ target ∈ decl.bridge,
      (entry.2.method? decl.name target).isSome = true) (name : String) (parameters : List String) :
    reg.BridgesLand name parameters := by
  intro owner decl target declared bridges
  obtain ⟨above, known, own⟩ := method_eq_ok_iff.1 declared
  have mem := List.mem_of_find?_eq_some own
  have same := List.find?_some own
  simp only [Bool.and_eq_true, beq_iff_eq] at same
  have lands := h _ (Entries.mem_of_get? (classDecl_eq_ok_iff.1 known)) decl mem target bridges
  rw [same.1] at lands
  obtain ⟨bridged, own'⟩ := Option.isSome_iff_exists.1 lands
  exact ⟨bridged, method_eq_ok_iff.2 ⟨above, known, own'⟩⟩

/-- A superclass any number of steps above a class is among its superclasses or is the class
itself. -/
theorem mem_lineage_of_reaches (h : reg.superclassGraph.Reaches name above) :
    above ∈ reg.lineage name := by
  have ahead : ∀ node ∈ [name], ∀ next ∈ reg.superclassGraph.next node,
      next ∈ [name] ∨ next ∈ reg.superclassGraph.next name := by
    intro node mem next after
    cases List.mem_singleton.1 mem
    exact .inr after
  have closed := (Graph.preorder_closed ahead).2
  refine h.mem_of_closed (fun node mem next after => ?_) (.head _)
  have inside := closed node (by simpa [lineage, superclasses] using mem) next after
  simpa [lineage, superclasses] using inside

end Registry
end Annotations
