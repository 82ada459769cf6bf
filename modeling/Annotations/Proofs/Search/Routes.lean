import Annotations.Proofs.Graph.Methods
import Annotations.Proofs.Search.Parallel
import Mathlib.Data.List.Perm.Subperm

/-!
The ways that searches take. One search goes on from an element to the types of the annotations
there, one level deeper, from a class to what it names as interfaces and superclass, and from a method
to those it stands for; on no way does it expand an element twice. So no way is longer than a search
has fuel, and a level is never deeper than there are annotation types.
-/
namespace Annotations
namespace Search

variable {search : Search} {kind : SearchKind}

/-- Where a search goes on from an element, and how many levels deeper that is. -/
inductive Next (search : Search) (kind : SearchKind) : Element → Element → Nat → Prop
  | up {element : Element} {annot : Annot} :
    search.Bears kind element annot → search.Next kind element (.annotType annot.type) 1
  | across {name above : String} : kind = .find → above ∈ search.reg.hierarchy.next name →
    search.Next kind (.classLike name) (.classLike above) 0
  | aside {ref there : MethodRef} {decl : MethodDecl} : kind = .find →
    search.reg.method ref = .ok decl → search.reg.Leads ref there →
    search.Next kind (.method ref) (.method there) 0

/-- What bears an annotation has declared annotations, if perhaps other ones. -/
theorem Bears.declared {element : Element} {annot : Annot} (h : search.Bears kind element annot) :
    ∃ annots, search.reg.declaredAnnots element = .ok annots := by
  rcases h.there with ⟨annots, known, _⟩ | ⟨name, annots, _, rfl, known, _⟩
  · exact ⟨annots, known⟩
  · obtain ⟨decl, known, _⟩ := Outcome.bind_ok known
    refine ⟨decl.annots, ?_⟩
    simp only [Registry.declaredAnnots, known]
    rfl

theorem Next.declared {element there : Element} {cost : Nat}
    (h : search.Next kind element there cost) :
    ∃ annots, search.reg.declaredAnnots element = .ok annots := by
  cases h with
  | up bears => exact bears.declared
  | @across name above _ mem =>
    rw [Registry.hierarchy_next] at mem
    cases known : search.reg.classDecl name with
    | ok decl =>
      refine ⟨decl.annots, ?_⟩
      simp only [Registry.declaredAnnots, known]
      rfl
    | error e =>
      rw [known] at mem
      cases mem
  | @aside ref there decl _ declared _ =>
    refine ⟨decl.annots, ?_⟩
    simp only [Registry.declaredAnnots, declared]
    rfl

/-- A search goes on from declared elements only. -/
theorem Next.known {element there : Element} {cost : Nat}
    (h : search.Next kind element there cost) : element ∈ search.reg.elements := by
  obtain ⟨_, known⟩ := h.declared
  exact Registry.mem_elements_of_declared known

/-- There is fuel for one element more than are declared. -/
theorem fuel_eq (search : Search) : search.fuel = search.reg.elements.length + 1 := by
  have methods (classes : Entries ClassDecl) :
      (classes.flatMap fun entry => Element.classLike entry.1 :: entry.2.methods.map fun method =>
        Element.method ⟨entry.1, method.name, method.parameters⟩).length =
        classes.foldr (fun entry total => entry.2.methods.length + 1 + total) 0 := by
    induction classes with
    | nil => rfl
    | cons entry rest ih =>
      simp [ih]
      omega
  simp only [fuel, Registry.elements, List.length_append, List.length_map, methods]

/-- A way of a search from a root that comes to no element twice: where it ends, the elements before
that, latest first, and how deep it is. -/
inductive Route (search : Search) (kind : SearchKind) (root : Element) :
    Element → List Element → Nat → Prop
  | start : search.Route kind root root [] 0
  | next {element there : Element} {before : List Element} {depth cost : Nat} :
    search.Route kind root element before depth → search.Next kind element there cost →
    there ∉ element :: before → search.Route kind root there (element :: before) (depth + cost)

namespace Route

variable {root element : Element} {before : List Element} {depth : Nat}

theorem nodup (h : search.Route kind root element before depth) : (element :: before).Nodup := by
  induction h with
  | start => simp
  | next _ _ fresh ih => exact List.nodup_cons.2 ⟨fresh, ih⟩

theorem known (h : search.Route kind root element before depth) :
    ∀ other ∈ before, other ∈ search.reg.elements := by
  induction h with
  | start => simp
  | next _ step _ ih =>
    intro other mem
    rcases List.mem_cons.1 mem with rfl | mem
    · exact step.known
    · exact ih other mem

/-- A search that is on its way has fuel left. -/
theorem length_lt_fuel (h : search.Route kind root element before depth) :
    before.length < search.fuel := by
  have distinct := (List.nodup_cons.1 h.nodup).2
  have bound : before.length ≤ search.reg.elements.length :=
    (List.subperm_of_subset distinct h.known).length_le
  rw [fuel_eq]
  omega

/-- Only the way that has not begun ends at the root. -/
theorem depth_root (h : search.Route kind root root before depth) : depth = 0 := by
  have rooted : ∀ element before depth, search.Route kind root element before depth →
      before ≠ [] → root ∈ before := by
    intro element before depth h
    induction h with
    | start => simp
    | @next element there before depth cost way _ _ ih =>
      intro _
      cases way with
      | start => simp
      | next way step fresh => exact .tail _ (ih (by simp))
  cases h with
  | start => rfl
  | next way step fresh =>
    have mem := rooted _ _ _ (.next way step fresh) (by simp)
    exact absurd mem fresh

/-- A search comes to methods on the level it starts from. -/
theorem depth_method {ref : MethodRef} (h : search.Route kind root (.method ref) before depth) :
    depth = 0 := by
  generalize same : Element.method ref = element at h
  induction h generalizing ref with
  | start => rfl
  | next _ step _ ih =>
    cases step with
    | up _ => cases same
    | across _ _ => cases same
    | aside _ _ _ => exact ih rfl

/-- Each level of a way is an annotation type. -/
theorem depth_le_annotTypes (h : search.Route kind root element before depth) :
    depth ≤ ((element :: before).filter Element.isAnnotType).length := by
  induction h with
  | start => simp
  | next _ step _ ih =>
    cases step with
    | up bears =>
      rw [List.filter_cons_of_pos rfl, List.length_cons]
      omega
    | across _ _ =>
      rw [List.filter_cons_of_neg (by simp [Element.isAnnotType])]
      exact ih
    | aside _ _ _ =>
      rw [List.filter_cons_of_neg (by simp [Element.isAnnotType])]
      exact ih

/-- At a declared element no way is deeper than there are annotation types. -/
theorem depth_le_types (h : search.Route kind root element before depth)
    (declared : element ∈ search.reg.elements) : depth ≤ search.reg.typeNames.length := by
  have distinct := h.nodup.filter Element.isAnnotType
  have within : (element :: before).filter Element.isAnnotType ⊆
      search.reg.typeNames.map Element.annotType := by
    intro other mem
    obtain ⟨mem, onType⟩ := List.mem_filter.1 mem
    have declared : other ∈ search.reg.elements := by
      rcases List.mem_cons.1 mem with rfl | mem
      · exact declared
      · exact h.known other mem
    cases other with
    | annotType name =>
      exact List.mem_map.2 ⟨name, Registry.annotType_mem_elements.1 declared, rfl⟩
    | classLike name => cases onType
    | method ref => cases onType
  have bound := (List.subperm_of_subset distinct within).length_le
  rw [List.length_map] at bound
  exact Nat.le_trans h.depth_le_annotTypes bound

end Route

end Search
end Annotations
