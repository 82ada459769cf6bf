import Annotations.Proofs.Graph.Hierarchy
import Annotations.Proofs.Graph.Reachability

/-!
A registry without the superclasses and interfaces that are named but not registered. A walk over the
graph of what is left meets what a walk over the whole graph meets, but for those names.
-/
namespace Annotations

namespace Graph

variable {graph : Graph} {keep : String → Bool}

/-- The same graph with only those successors that are kept. -/
def keeping (keep : String → Bool) (graph : Graph) : Graph :=
  graph.map fun entry => (entry.1, entry.2.filter keep)

theorem next_keeping (keep : String → Bool) (graph : Graph) (node : String) :
    (graph.keeping keep).next node = (graph.next node).filter keep := by
  unfold next keeping
  rw [Entries.get?_map]
  cases graph.get? node <;> rfl

theorem preorder_cons (graph : Graph) (seen : List String) (node : String) (rest : List String) :
    graph.preorder seen (node :: rest) =
      if seen.contains node then graph.preorder seen rest
      else node :: graph.preorder (node :: seen) (graph.next node ++ rest) := by
  rw [preorder]

theorem Reaches.mono {graph' : Graph} {a b : String}
    (wider : ∀ node, graph.next node ⊆ graph'.next node) (h : Reaches graph a b) :
    Reaches graph' a b := by
  induction h with
  | step next => exact .step (wider _ next)
  | cons next _ ih => exact .cons (wider _ next) ih

/-- Nodes without successors can be left out before a walk or after it. -/
theorem preorder_keeping (leaf : ∀ node, keep node = false → graph.next node = [])
    {seen seen' todo : List String}
    (same : ∀ node, keep node = true → (node ∈ seen ↔ node ∈ seen')) :
    (graph.keeping keep).preorder seen' (todo.filter keep) =
      (graph.preorder seen todo).filter keep := by
  -- along the walk over the whole graph, which meets at least as much
  induction seen, todo using Graph.preorder.induct graph generalizing seen' with
  | case1 seen => simp [preorder]
  | case2 seen node rest before ih =>
    rw [preorder_cons graph, if_pos before, ← ih same]
    cases kept : keep node with
    | false => rw [List.filter_cons_of_neg (by simp [kept])]
    | true =>
      have before' : seen'.contains node = true := by
        simpa using (same node kept).1 (by simpa using before)
      rw [List.filter_cons_of_pos kept, preorder_cons, if_pos before']
  | case3 seen node rest fresh ih =>
    rw [preorder_cons graph, if_neg fresh]
    cases kept : keep node with
    | false =>
      rw [List.filter_cons_of_neg (by simp [kept]), List.filter_cons_of_neg (by simp [kept])]
      rw [leaf node kept] at ih ⊢
      refine ih fun other kept' => ?_
      have other_ne : other ≠ node := by
        rintro rfl
        cases kept.symm.trans kept'
      rw [List.mem_cons, or_iff_right other_ne]
      exact same other kept'
    | true =>
      have fresh' : ¬ seen'.contains node = true := by
        simpa using mt (same node kept).2 (by simpa using fresh)
      rw [List.filter_cons_of_pos kept, List.filter_cons_of_pos kept, preorder_cons,
        if_neg fresh', next_keeping, ← List.filter_append]
      rw [ih fun other kept' => by rw [List.mem_cons, List.mem_cons, same other kept']]

/-- Where no node has two successors, a walk ends at a node that is not kept. -/
theorem preorder_pairwise (leaf : ∀ node, keep node = false → graph.next node = [])
    (single : ∀ node, (graph.next node).length ≤ 1) {seen todo : List String}
    (start : todo.length ≤ 1) : (graph.preorder seen todo).Pairwise fun node _ => keep node = true := by
  induction seen, todo using Graph.preorder.induct graph with
  | case1 seen => simp [preorder]
  | case2 seen node rest before ih =>
    rw [preorder, if_pos before]
    exact ih (by simp at start; simp [start])
  | case3 seen node rest fresh ih =>
    have alone : rest = [] := by simpa using start
    subst alone
    rw [preorder, if_neg fresh, List.pairwise_cons]
    refine ⟨fun other mem => ?_, ih (by simpa using single node)⟩
    cases kept : keep node with
    | true => rfl
    | false =>
      rw [leaf node kept, List.nil_append, preorder] at mem
      cases mem

end Graph

/-- The same class with only those superclasses and interfaces that are kept. -/
def ClassDecl.keeping (keep : String → Bool) (decl : ClassDecl) : ClassDecl :=
  { decl with
    superclass := decl.superclass.filter keep
    interfaces := decl.interfaces.filter keep }

namespace Registry

variable (reg : Registry)

def hasClass (name : String) : Bool := reg.classes.has name

/-- The registry without the superclasses and interfaces that are not registered. -/
def pruned : Registry :=
  { reg with classes := reg.classes.map fun entry => (entry.1, entry.2.keeping reg.hasClass) }

theorem pruned_type (name : String) : reg.pruned.type name = reg.type name := rfl

theorem pruned_classDecl (name : String) :
    reg.pruned.classDecl name = (reg.classDecl name).map (ClassDecl.keeping reg.hasClass) := by
  unfold classDecl pruned
  rw [Entries.get?_map (ClassDecl.keeping reg.hasClass)]
  cases reg.classes.get? name <;> rfl

theorem pruned_method (ref : MethodRef) : reg.pruned.method ref = reg.method ref := by
  unfold method
  rw [pruned_classDecl]
  cases reg.classDecl ref.owner <;> rfl

theorem pruned_declaredAnnots (element : Element) :
    reg.pruned.declaredAnnots element = reg.declaredAnnots element := by
  cases element with
  | classLike name =>
    simp only [declaredAnnots, pruned_classDecl]
    cases reg.classDecl name <;> rfl
  | method ref => simp only [declaredAnnots, pruned_method]
  | annotType name => rfl

theorem pruned_resolveBridge (ref : MethodRef) :
    reg.pruned.resolveBridge ref = reg.resolveBridge ref := by
  simp only [resolveBridge, pruned_method]

theorem pruned_firstClass? {test : ClassDecl → Bool}
    (h : ∀ decl, test (decl.keeping reg.hasClass) = test decl) (names : List String) :
    reg.pruned.firstClass? test names = reg.firstClass? test names := by
  induction names with
  | nil => rfl
  | cons name rest ih =>
    simp only [firstClass?, pruned_classDecl, ih]
    cases reg.classDecl name with
    | error e => rfl
    | ok decl =>
      change (if test (decl.keeping reg.hasClass) = true then _ else _) =
        if test decl = true then _ else _
      rw [h]

theorem classDecl_of_not_hasClass {name : String} (unknown : reg.hasClass name = false) :
    reg.classDecl name = .error (.unknownClass name) := by
  have absent : reg.classes.get? name = none := by simpa [hasClass, Entries.has] using unknown
  simp only [classDecl, absent]

/-- A graph over the classes leads on from registered classes only. -/
theorem classGraph_leaf (edges : ClassDecl → List String) (name : String)
    (unknown : reg.hasClass name = false) : (reg.classGraph edges).next name = [] := by
  rw [classGraph_next, reg.classDecl_of_not_hasClass unknown]

section

variable {reg} (edges : ClassDecl → List String)
  (prunes : ∀ decl, edges (decl.keeping reg.hasClass) = (edges decl).filter reg.hasClass)

include prunes

theorem pruned_classGraph :
    reg.pruned.classGraph edges = (reg.classGraph edges).keeping reg.hasClass := by
  simp only [classGraph, pruned, Graph.keeping, List.map_map]
  exact List.map_congr_left fun entry _ => congrArg _ (prunes entry.2)

/-- A walk over what is left of the classes meets what is left of a walk over all of them. -/
theorem pruned_preorder (seen todo : List String) :
    (reg.pruned.classGraph edges).preorder seen (todo.filter reg.hasClass) =
      ((reg.classGraph edges).preorder seen todo).filter reg.hasClass := by
  rw [pruned_classGraph edges prunes]
  exact Graph.preorder_keeping (reg.classGraph_leaf edges) fun _ _ => Iff.rfl

end

/-- The superclass as a list. -/
def supers (decl : ClassDecl) : List String := decl.superclass.toList

theorem supers_keeping (keep : String → Bool) (decl : ClassDecl) :
    supers (decl.keeping keep) = (supers decl).filter keep := by
  simp only [supers, ClassDecl.keeping]
  cases decl.superclass with
  | none => rfl
  | some above => cases kept : keep above <;> simp [Option.filter, kept]

theorem superclasses_eq (name : String) :
    reg.superclasses name =
      (reg.classGraph supers).preorder [name] ((reg.classGraph supers).next name) := rfl

theorem pruned_superclasses (name : String) :
    reg.pruned.superclasses name = (reg.superclasses name).filter reg.hasClass := by
  have prunes (decl : ClassDecl) := supers_keeping reg.hasClass decl
  have next : (reg.pruned.classGraph supers).next name =
      ((reg.classGraph supers).next name).filter reg.hasClass := by
    rw [pruned_classGraph supers prunes, Graph.next_keeping]
  rw [superclasses_eq, superclasses_eq, next, pruned_preorder supers prunes]

/-- A class names one superclass at most. -/
theorem supers_single (name : String) : ((reg.classGraph supers).next name).length ≤ 1 := by
  rw [classGraph_next]
  split
  · exact Option.length_toList_le
  · exact Nat.zero_le 1

/-- Only the last superclass of a class can be unregistered. -/
theorem superclasses_pairwise (name : String) :
    (reg.superclasses name).Pairwise fun above _ => reg.hasClass above = true := by
  have single := reg.supers_single
  rw [superclasses_eq]
  exact Graph.preorder_pairwise (reg.classGraph_leaf supers) single (single name)

/-- What a class inherits is known only where all its superclasses are registered. -/
theorem hasClass_of_inheritedAnnots {name : String} {annots : List Annot}
    (h : reg.inheritedAnnots name = .ok annots) :
    ∀ above ∈ reg.superclasses name, reg.hasClass above = true := by
  obtain ⟨decl, _, h⟩ := Outcome.bind_ok h
  generalize reg.superclasses name = names at h ⊢
  generalize ([] : List Annot) = found at h
  induction names generalizing found with
  | nil => simp
  | cons first rest ih =>
    rw [List.foldlM_cons] at h
    obtain ⟨found', here, h⟩ := Outcome.bind_ok h
    obtain ⟨declAbove, known, _⟩ := Outcome.bind_ok here
    refine List.forall_mem_cons.2 ⟨?_, ih found' h⟩
    cases there : reg.hasClass first with
    | true => rfl
    | false => cases (reg.classDecl_of_not_hasClass there).symm.trans known

/-- Where nothing a class inherits from is unregistered, it inherits the same. -/
theorem pruned_inheritedAnnots {name : String}
    (known : ∀ above ∈ reg.superclasses name, reg.hasClass above = true) :
    reg.pruned.inheritedAnnots name = reg.inheritedAnnots name := by
  have same : reg.pruned.superclasses name = reg.superclasses name := by
    rw [pruned_superclasses]
    exact List.filter_eq_self.2 known
  have takes (hidden : List String) (found annots : List Annot) :
      reg.pruned.addInherited hidden found annots = reg.addInherited hidden found annots := by
    induction annots generalizing found with
    | nil => rfl
    | cons annot rest ih => simp only [addInherited, ih, pruned_type]
  unfold inheritedAnnots
  simp only [same, pruned_classDecl, takes]
  cases reg.classDecl name with
  | error e => rfl
  | ok decl =>
    change List.foldlM _ _ _ = List.foldlM _ _ _
    congr 1
    funext found above
    cases reg.classDecl above <;> rfl

end Registry
end Annotations
