import Annotations.Proofs.Graph.Methods
import Annotations.Vocabulary.Web

/-!
The look-up of a method among interfaces. It stops at the first interface that declares the method,
depth first, so it comes to one that stands nearest on some way up; a look-up from each interface
that this one extends goes on from there. Where an interface and all that it extends are registered, this
look-up and the one of annotated methods leave none of them out.
-/
namespace Annotations

namespace Graph

/-- The nearest nodes that pass a test: a way leads there over nodes that do not. -/
inductive Nearest (graph : Graph) (test : String → Bool) : String → String → Prop
  | here {node : String} : test node = true → graph.Nearest test node node
  | up {node above nearest : String} : test node = false → above ∈ graph.next node →
    graph.Nearest test above nearest → graph.Nearest test node nearest

variable {graph : Graph} {test : String → Bool} {start nearest : String}

/-- What a walk comes to first is nearest to one of the nodes that it starts from. -/
theorem nearest_of_find {seen todo : List String}
    (h : (graph.preorder seen todo).find? test = some nearest) :
    ∃ start ∈ todo, graph.Nearest test start nearest := by
  induction seen, todo using Graph.preorder.induct graph with
  | case1 seen =>
    rw [preorder] at h
    cases h
  | case2 seen first rest before ih =>
    rw [preorder, if_pos before] at h
    obtain ⟨start, mem, near⟩ := ih h
    exact ⟨start, .tail first mem, near⟩
  | case3 seen first rest fresh ih =>
    rw [preorder, if_neg fresh, List.find?_cons] at h
    cases passes : test first with
    | true =>
      simp only [passes, Option.some.injEq] at h
      subst h
      exact ⟨first, .head rest, .here passes⟩
    | false =>
      simp only [passes] at h
      obtain ⟨start, mem, near⟩ := ih h
      rcases List.mem_append.1 mem with next | mem
      · exact ⟨first, .head rest, .up passes next near⟩
      · exact ⟨start, .tail first mem, near⟩

theorem Nearest.passes (h : graph.Nearest test start nearest) : test nearest = true := by
  induction h with
  | here passes => exact passes
  | up _ _ _ ih => exact ih

theorem Nearest.reaches (h : graph.Nearest test start nearest) :
    nearest = start ∨ graph.Reaches start nearest := by
  induction h with
  | here _ => exact .inl rfl
  | up _ next _ ih =>
    rcases ih with rfl | further
    · exact .inr (.step next)
    · exact .inr (.cons next further)

end Graph

namespace Registry

/-- Whether a class or interface declares a method of a signature. -/
def declares (reg : Registry) (name : String) (parameters : List String) (owner : String) : Bool :=
  (reg.classDecl owner).toOption.any fun decl => (decl.method? name parameters).isSome

/-- What look-ups of a signature see from an interface on: the method that is found first, and what is
seen from the interfaces that its own interface extends. -/
inductive Sees (reg : Registry) (name : String) (parameters : List String) :
    String → MethodRef → Prop
  | first {interface : String} {there : MethodRef} :
    reg.findInterfaceMethod interface name parameters = .ok (some there) →
    reg.Sees name parameters interface there
  | beyond {interface above : String} {found there : MethodRef} {decl : ClassDecl} :
    reg.findInterfaceMethod interface name parameters = .ok (some found) →
    reg.classDecl found.owner = .ok decl → above ∈ decl.interfaces →
    reg.Sees name parameters above there → reg.Sees name parameters interface there

/-- All ways up from an interface come to the same interface first that declares a signature. -/
def Unforked (reg : Registry) (name : String) (parameters : List String) (interface : String) :
    Prop :=
  ∀ nearest nearest', reg.interfaceGraph.Nearest (reg.declares name parameters) interface nearest →
    reg.interfaceGraph.Nearest (reg.declares name parameters) interface nearest' →
    nearest = nearest'

variable {reg : Registry} {name interface above owner : String} {parameters : List String}
  {there : MethodRef} {decl : MethodDecl}

theorem declares_iff :
    reg.declares name parameters owner = true ↔
      ∃ decl, reg.method ⟨owner, name, parameters⟩ = .ok decl := by
  simp only [method_eq_ok_iff, declares]
  cases known : reg.classDecl owner with
  | error e => simp [Except.toOption]
  | ok decl => simp [Except.toOption, Option.isSome_iff_exists]

theorem mem_interfaceGraph_next :
    above ∈ reg.interfaceGraph.next name ↔
      ∃ decl, reg.classDecl name = .ok decl ∧ above ∈ decl.interfaces := by
  have next := reg.classGraph_next (fun decl => decl.interfaces) name
  change reg.interfaceGraph.next name = _ at next
  rw [next]
  cases reg.classDecl name with
  | error e => simp
  | ok decl => simp

/-- A walk over interfaces that takes the last declared first meets all that an interface extends. -/
theorem mem_interfacesFromLast_iff : owner ∈ reg.interfacesFromLast interface ↔
    owner = interface ∨ reg.interfaceGraph.Reaches interface owner := by
  have same (node above : String) :
      above ∈ (reg.classGraph fun decl => decl.interfaces.reverse).next node ↔
        above ∈ reg.interfaceGraph.next node := by
    rw [mem_interfaceGraph_next, classGraph_next]
    cases reg.classDecl node <;> simp
  rw [interfacesFromLast_eq, Graph.mem_preorder_iff]
  refine or_congr Iff.rfl ⟨fun way => ?_, fun way => ?_⟩
  · exact way.mono fun node above => (same node above).1
  · exact way.mono fun node above => (same node above).2

/-- Nothing forks where interfaces that do not declare the method extend one other at most. -/
theorem unforked_of_single
    (single : ∀ entry ∈ reg.classes, reg.declares name parameters entry.1 = false →
      entry.2.interfaces.length ≤ 1) (interface : String) :
    reg.Unforked name parameters interface := by
  intro nearest nearest' near near'
  induction near with
  | here passes =>
    cases near' with
    | here _ => rfl
    | up fails => cases fails.symm.trans passes
  | up fails next _ ih =>
    cases near' with
    | here passes => cases fails.symm.trans passes
    | up _ next' near' =>
      obtain ⟨decl, own, mem⟩ := mem_interfaceGraph_next.1 next
      obtain ⟨decl', own', mem'⟩ := mem_interfaceGraph_next.1 next'
      cases own.symm.trans own'
      have alone := single _ (Entries.mem_of_get? (classDecl_eq_ok_iff.1 own)) fails
      obtain ⟨only, named⟩ := List.length_eq_one_iff.1
        (Nat.le_antisymm alone (List.length_pos_of_mem mem))
      rw [named, List.mem_singleton] at mem mem'
      subst mem mem'
      exact ih near'

theorem findInterfaceMethod_reached
    (h : reg.findInterfaceMethod interface name parameters = .ok (some there)) :
    there.owner = interface ∨ reg.interfaceGraph.Reaches interface there.owner := by
  obtain ⟨owner?, first, h⟩ := Outcome.bind_ok h
  cases owner? with
  | none => cases h
  | some owner =>
    cases h
    exact Graph.mem_preorder_iff.1 (mem_of_firstClass? first)

/-- What is seen from an interface is a method of the signature on an interface above. -/
theorem Sees.reached (h : reg.Sees name parameters interface there) :
    there = ⟨there.owner, name, parameters⟩ ∧
      (there.owner = interface ∨ reg.interfaceGraph.Reaches interface there.owner) := by
  induction h with
  | first found =>
    obtain ⟨rfl, rfl, _⟩ := findInterfaceMethod_some found
    exact ⟨rfl, findInterfaceMethod_reached found⟩
  | @beyond interface above found there decl first own mem _ ih =>
    have step := mem_interfaceGraph_next.2 ⟨decl, own, mem⟩
    have further : reg.interfaceGraph.Reaches found.owner there.owner := by
      rcases ih.2 with same | further
      · exact .step (same ▸ step)
      · exact .cons step further
    refine ⟨ih.1, .inr ?_⟩
    rcases findInterfaceMethod_reached first with same | way
    · exact same ▸ further
    · exact way.trans further

section

variable (known : reg.HierarchyKnown)

include known

theorem HierarchyKnown.extended (next : above ∈ reg.interfaceGraph.next name) :
    reg.hasClass above = true := by
  obtain ⟨decl, own, mem⟩ := mem_interfaceGraph_next.1 next
  exact known name decl own above (List.mem_append_left _ mem)

/-- An interface from which an annotated method can be reached counts as having annotated methods. -/
theorem HierarchyKnown.annotated (here : reg.hasClass interface = true)
    (reaches : owner = interface ∨ reg.interfaceGraph.Reaches interface owner)
    (declared : reg.method ⟨owner, name, parameters⟩ = .ok decl) {annot : Annot}
    (mem : annot ∈ decl.annots) : reg.hasAnnotatedMethods interface = .ok true := by
  have met := mem_interfacesFromLast_iff.2 reaches
  obtain ⟨ownerDecl, own, method⟩ := method_eq_ok_iff.1 declared
  rw [(known.interface here).1]
  congr 1
  refine List.find?_isSome.2 ⟨owner, met, ?_⟩
  have there := List.mem_of_find?_eq_some method
  simp only [own, Except.toOption, Option.any_some, ClassDecl.hasAnnotatedMethod, List.any_eq_true]
  exact ⟨decl, there, by simp [List.ne_nil_of_mem mem]⟩

theorem HierarchyKnown.nearest (here : reg.hasClass interface = true)
    (found : reg.findInterfaceMethod interface name parameters = .ok (some there)) :
    reg.interfaceGraph.Nearest (reg.declares name parameters) interface there.owner := by
  rw [(known.interface here).2, Except.ok.injEq, Option.map_eq_some_iff] at found
  obtain ⟨owner, first, rfl⟩ := found
  obtain ⟨start, mem, near⟩ := Graph.nearest_of_find first
  cases List.mem_singleton.1 mem
  exact near

/-- A look-up finds a method where some interface above declares one. -/
theorem HierarchyKnown.found_of_reaches (here : reg.hasClass interface = true)
    (reaches : owner = interface ∨ reg.interfaceGraph.Reaches interface owner)
    (declares : reg.declares name parameters owner = true) :
    ∃ nearest, reg.findInterfaceMethod interface name parameters =
      .ok (some ⟨nearest, name, parameters⟩) := by
  have met : owner ∈ reg.interfacesFrom interface := Graph.mem_preorder_iff.2 reaches
  have found : ((reg.interfacesFrom interface).find? (reg.declares name parameters)).isSome = true :=
    List.find?_isSome.2 ⟨owner, met, declares⟩
  obtain ⟨nearest, first⟩ := Option.isSome_iff_exists.1 found
  refine ⟨nearest, ?_⟩
  rw [(known.interface here).2]
  change Except.ok (((reg.interfacesFrom interface).find? (reg.declares name parameters)).map _) = _
  rw [first]
  rfl

theorem HierarchyKnown.found_of_declares (here : reg.hasClass interface = true)
    (declares : reg.declares name parameters interface = true) :
    reg.findInterfaceMethod interface name parameters = .ok (some ⟨interface, name, parameters⟩) := by
  obtain ⟨nearest, found⟩ := known.found_of_reaches here (.inl rfl) declares
  cases known.nearest here found with
  | here _ => exact found
  | up fails => cases fails.symm.trans declares

/-- What is seen from one of the interfaces that an unforked one extends is seen from that. -/
theorem HierarchyKnown.sees_below (here : reg.hasClass interface = true)
    (unforked : reg.Unforked name parameters interface)
    (next : above ∈ reg.interfaceGraph.next interface)
    (sees : reg.Sees name parameters above there) : reg.Sees name parameters interface there := by
  cases own : reg.declares name parameters interface with
  | true =>
    obtain ⟨decl, declared, mem⟩ := mem_interfaceGraph_next.1 next
    exact .beyond (known.found_of_declares here own) declared mem sees
  | false =>
    have same {found : MethodRef}
        (first : reg.findInterfaceMethod above name parameters = .ok (some found)) :
        reg.findInterfaceMethod interface name parameters = .ok (some found) := by
      have near := known.nearest (known.extended next) first
      have further : found.owner = interface ∨ reg.interfaceGraph.Reaches interface found.owner := by
        rcases near.reaches with same | way
        · exact .inr (.step (same ▸ next))
        · exact .inr (.cons next way)
      obtain ⟨nearest, first'⟩ := known.found_of_reaches here further near.passes
      obtain ⟨rfl, rfl, _⟩ := findInterfaceMethod_some first
      cases unforked _ _ (known.nearest here first') (.up own next near)
      exact first'
    cases sees with
    | first first => exact .first (same first)
    | beyond first declared mem sees => exact .beyond (same first) declared mem sees

/-- Where no two interfaces come first, all interfaces above that declare the method are seen. -/
theorem HierarchyKnown.sees_of_reaches (here : reg.hasClass interface = true)
    (unforked : ∀ start, start = interface ∨ reg.interfaceGraph.Reaches interface start →
      reg.Unforked name parameters start)
    (reaches : owner = interface ∨ reg.interfaceGraph.Reaches interface owner)
    (declares : reg.declares name parameters owner = true) :
    reg.Sees name parameters interface ⟨owner, name, parameters⟩ := by
  rcases reaches with rfl | way
  · exact .first (known.found_of_declares here declares)
  · induction way with
    | step next =>
      have there := known.found_of_declares (known.extended next) declares
      exact known.sees_below here (unforked _ (.inl rfl)) next (.first there)
    | cons next _ ih =>
      refine known.sees_below here (unforked _ (.inl rfl)) next (ih (known.extended next) ?_ declares)
      rintro start (rfl | further)
      · exact unforked start (.inr (.step next))
      · exact unforked start (.inr (.cons next further))

end

end Registry

/-! ## Completeness -/

namespace Registry

open Relation (ReflTransGen)

/-- One interface names the other as one that it extends. -/
def ExtendsInterface (reg : Registry) (below above : String) : Prop :=
  ∃ decl, reg.classDecl below = .ok decl ∧ above ∈ decl.interfaces

/-- An interface declares a method of a signature. -/
def DeclaresMethod (reg : Registry) (name : String) (parameters : List String) (owner : String) :
    Prop :=
  ∃ decl, reg.classDecl owner = .ok decl ∧
    ∃ method ∈ decl.methods, method.name = name ∧ method.parameters = parameters

/-- An interface declares a method that has an annotation. -/
def DeclaresAnnotated (reg : Registry) (owner : String) : Prop :=
  ∃ decl, reg.classDecl owner = .ok decl ∧ ∃ method ∈ decl.methods, method.annots ≠ []

variable {reg : Registry} {start name owner : String} {parameters names : List String}
  {test : ClassDecl → Bool} {decl : ClassDecl}

theorem extendsInterface_iff :
    ReflTransGen reg.ExtendsInterface start owner ↔
      owner = start ∨ reg.interfaceGraph.Reaches start owner := by
  rw [Relation.reflTransGen_iff_eq_or_transGen,
    Graph.reaches_iff_transGen fun _ _ => mem_interfaceGraph_next.symm]
  rfl

theorem declaresMethod_iff : reg.DeclaresMethod name parameters owner ↔
    ∃ decl, reg.classDecl owner = .ok decl ∧ (decl.method? name parameters).isSome = true := by
  simp only [DeclaresMethod, ClassDecl.method?, List.find?_isSome, Bool.and_eq_true, beq_iff_eq]

theorem declaresAnnotated_iff : reg.DeclaresAnnotated owner ↔
    ∃ decl, reg.classDecl owner = .ok decl ∧ decl.hasAnnotatedMethod = true := by
  simp [DeclaresAnnotated, ClassDecl.hasAnnotatedMethod]

/-- A walk that meets an interface and all that it extends comes to the first class that passes a test,
if any of them does. -/
theorem firstClass?_exact
    (known : ∀ above, ReflTransGen reg.ExtendsInterface start above → reg.hasClass above = true)
    (met : ∀ above, above ∈ names ↔ ReflTransGen reg.ExtendsInterface start above)
    (test : ClassDecl → Bool) :
    ∃ found, reg.firstClass? test names = .ok found ∧
      (found.isSome = true ↔ ∃ above, ReflTransGen reg.ExtendsInterface start above ∧
        ∃ decl, reg.classDecl above = .ok decl ∧ test decl = true) ∧
      ∀ owner, found = some owner → ReflTransGen reg.ExtendsInterface start owner ∧
        ∃ decl, reg.classDecl owner = .ok decl ∧ test decl = true := by
  have ends : reg.firstClass? test names = .ok _ :=
    firstClass?_of_known fun above mem => known above ((met above).1 mem)
  refine ⟨_, ends, ?_, fun owner first => ?_⟩
  · rw [List.find?_isSome]
    refine exists_congr fun above => and_congr (met above) ?_
    cases reg.classDecl above <;> simp [Except.toOption]
  · rw [first] at ends
    exact ⟨(met owner).1 (mem_of_firstClass? ends), test_of_firstClass? ends⟩

/-- An interface is looked at before those that it extends. -/
theorem firstClass?_start (known : reg.classDecl start = .ok decl) (passes : test decl = true) :
    reg.firstClass? test (reg.interfacesFrom start) = .ok (some start) := by
  rw [interfacesFrom, Graph.preorder_cons, if_neg (by simp), firstClass?, known]
  simp [bind, Except.bind, passes, pure, Except.pure]

/-- Where an interface and all that it extends are registered: the look-up of a method ends, finds one
exactly if one of these interfaces declares it, names one that does, and the interface itself if that
one does; and the look-up of annotated methods ends and tells whether one of them has any. -/
theorem interface_lookups_complete
    (known : ∀ above, ReflTransGen reg.ExtendsInterface start above → reg.hasClass above = true)
    (name : String) (parameters : List String) :
    (∃ found, reg.findInterfaceMethod start name parameters = .ok found ∧
      (found.isSome = true ↔ ∃ above, ReflTransGen reg.ExtendsInterface start above ∧
        reg.DeclaresMethod name parameters above) ∧
      (∀ ref, found = some ref → ref = ⟨ref.owner, name, parameters⟩ ∧
        ReflTransGen reg.ExtendsInterface start ref.owner ∧
        reg.DeclaresMethod name parameters ref.owner) ∧
      (reg.DeclaresMethod name parameters start → found = some ⟨start, name, parameters⟩)) ∧
    ∃ annotated, reg.hasAnnotatedMethods start = .ok annotated ∧
      (annotated = true ↔ ∃ above, ReflTransGen reg.ExtendsInterface start above ∧
        reg.DeclaresAnnotated above) := by
  constructor
  · obtain ⟨owner?, first, some, there⟩ := firstClass?_exact known
      (fun _ => Graph.mem_preorder_iff.trans extendsInterface_iff.symm)
      fun decl => (decl.method? name parameters).isSome
    refine ⟨owner?.map fun owner => ⟨owner, name, parameters⟩, ?_, ?_, ?_, fun own => ?_⟩
    · rw [findInterfaceMethod, interfacesFrom, first]
      rfl
    · simp only [Option.isSome_map, some, declaresMethod_iff]
    · rintro ref found
      obtain ⟨owner, rfl, rfl⟩ := Option.map_eq_some_iff.1 found
      obtain ⟨way, declares⟩ := there owner rfl
      exact ⟨rfl, way, declaresMethod_iff.2 declares⟩
    · obtain ⟨decl, here, declares⟩ := declaresMethod_iff.1 own
      cases first.symm.trans (firstClass?_start here declares)
      rfl
  · obtain ⟨owner?, first, some, _⟩ := firstClass?_exact known
      (fun _ => mem_interfacesFromLast_iff.trans extendsInterface_iff.symm)
      ClassDecl.hasAnnotatedMethod
    refine ⟨owner?.isSome, ?_, ?_⟩
    · rw [hasAnnotatedMethods, first]
      rfl
    · simp only [some, declaresAnnotated_iff]

/-- All that an interface extends is registered where every class that is named is. -/
theorem HierarchyKnown.extendsInterface (h : reg.HierarchyKnown) (here : reg.hasClass start = true)
    (way : ReflTransGen reg.ExtendsInterface start owner) : reg.hasClass owner = true := by
  cases way with
  | refl => exact here
  | tail _ step => exact h.extended (mem_interfaceGraph_next.2 step)

/-- Two interfaces that extend each other, and one below which ways meet again. -/
def knot : Registry :=
  base.addClasses [
    ("app.Shape", { kind := .interface, interfaces := ["app.Drawn", "app.Named"] }),
    ("app.Drawn", { kind := .interface, interfaces := ["app.Shape", "app.Shown"] }),
    ("app.Named", { kind := .interface, interfaces := ["app.Shown"] }),
    ("app.Shown", {
      kind := .interface
      methods := [{ name := "show", annots := [⟨"test.Note", []⟩] }] })]

/-- The method that only the topmost interface declares is found from the loop, with its annotation. -/
theorem knot_lookups :
    (∀ above, ReflTransGen knot.ExtendsInterface "app.Shape" above → knot.hasClass above = true) ∧
      (∃ ref, knot.findInterfaceMethod "app.Shape" "show" [] = .ok (some ref)) ∧
      knot.hasAnnotatedMethods "app.Shape" = .ok true := by
  have named : knot.HierarchyKnown := .of_classes (by with_unfolding_all decide)
  have known (above : String) (way : ReflTransGen knot.ExtendsInterface "app.Shape" above) :=
    named.extendsInterface (by with_unfolding_all decide) way
  have drawn : knot.ExtendsInterface "app.Shape" "app.Drawn" := ⟨_, rfl, .head _⟩
  have shown : knot.ExtendsInterface "app.Drawn" "app.Shown" := ⟨_, rfl, .tail _ (.head _)⟩
  have way : ReflTransGen knot.ExtendsInterface "app.Shape" "app.Shown" := .tail (.single drawn) shown
  obtain ⟨⟨found, ends, some, _⟩, annotated, ends', yes⟩ :=
    interface_lookups_complete known "show" []
  refine ⟨known, ?_, ?_⟩
  · obtain ⟨ref, rfl⟩ := Option.isSome_iff_exists.1
      (some.2 ⟨_, way, _, rfl, _, .head _, rfl, rfl⟩)
    exact ⟨ref, ends⟩
  · rw [ends', yes.2 ⟨_, way, _, rfl, _, .head _, by simp⟩]

end Registry
end Annotations
