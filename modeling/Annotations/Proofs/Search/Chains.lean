import Annotations.Proofs.Graph.Reachability
import Annotations.Proofs.Search.Exhausted
import Mathlib.Logic.Relation

/-!
What a search for presence finds, as chains of annotations: from an element, or from what stands above
it, each next annotation on the type of the one before it. The ways of a search are such chains, and a
chain to an annotation that is not found leads through a type that is cut off by the depth limit.
-/
namespace Annotations

open Relation (ReflTransGen)

namespace Search

variable {search : Search} {kind : SearchKind} {element top : Element} {chain : List String}

/-- The types of a chain of annotations, none of them built in: the first annotation is on one
element, each next one is on the type of the one before it, and the chain leads to another. -/
inductive Climbs (search : Search) (kind : SearchKind) : Element → List String → Element → Prop
  | here {element : Element} : search.Climbs kind element [] element
  | up {element top : Element} {annot : Annot} {chain : List String} :
    search.Bears kind element annot → search.Climbs kind (.annotType annot.type) chain top →
    search.Climbs kind element (annot.type :: chain) top

/-- A chain goes on with an annotation on what it leads to. -/
theorem Climbs.snoc {annot : Annot} (h : search.Climbs kind element chain top)
    (bears : search.Bears kind top annot) :
    search.Climbs kind element (chain ++ [annot.type]) (.annotType annot.type) := by
  induction h with
  | here => exact .up bears .here
  | up first _ ih => exact .up first (ih bears)

/-- Where a chain from an element starts: there, for a find search from a class also at a class or
interface above it. -/
inductive Stands (search : Search) (kind : SearchKind) : Element → Element → Prop
  | here {element : Element} : search.Stands kind element element
  | above {name above : String} : kind = .find → search.reg.hierarchy.Reaches name above →
    search.Stands kind (.classLike name) (.classLike above)

/-- The same for all elements: a find search from a method starts also at methods that it leads to. -/
inductive Starts (search : Search) (kind : SearchKind) : Element → Element → Prop
  | stands {element base : Element} : search.Stands kind element base →
    search.Starts kind element base
  | beside {ref there : MethodRef} : kind = .find → ReflTransGen search.reg.Leads ref there →
    search.Starts kind (.method ref) (.method there)

/-- A class or a method that a chain leads to is where it starts. -/
theorem Climbs.here_of_plain (h : search.Climbs kind element chain top)
    (plain : top.isAnnotType = false) : element = top ∧ chain = [] := by
  induction h with
  | here => exact ⟨rfl, rfl⟩
  | up _ rest ih =>
    obtain ⟨rfl, _⟩ := ih plain
    cases plain

theorem Starts.across {name above : String} (h : search.Starts kind element (.classLike name))
    (find : kind = .find) (mem : above ∈ search.reg.hierarchy.next name) :
    search.Starts kind element (.classLike above) := by
  cases h with
  | stands stands =>
    cases stands with
    | here => exact .stands (.above find (.step mem))
    | above _ reaches => exact .stands (.above find (reaches.trans (.step mem)))

theorem Starts.aside {ref there : MethodRef} (h : search.Starts kind element (.method ref))
    (find : kind = .find) (leads : search.reg.Leads ref there) :
    search.Starts kind element (.method there) := by
  cases h with
  | stands stands =>
    cases stands
    exact .beside find (.single leads)
  | beside _ way => exact .beside find (way.tail leads)

/-- A search that follows no methods starts at the element or above it. -/
theorem Starts.of_plain {base : Element} (h : search.Starts kind element base)
    (plain : kind = .find → ∀ ref, element ≠ .method ref) : search.Stands kind element base := by
  cases h with
  | stands stands => exact stands
  | beside find _ => exact absurd rfl (plain find _)

/-- The way of a search is a chain with as many annotations as it is deep. -/
theorem Route.climbs {root : Element} {before : List Element} {depth : Nat}
    (h : search.Route kind root element before depth) :
    ∃ base chain, search.Starts kind root base ∧ search.Climbs kind base chain element ∧
      chain.length = depth := by
  induction h with
  | start => exact ⟨_, [], .stands .here, .here, rfl⟩
  | next _ step _ ih =>
    obtain ⟨base, chain, starts, climbs, length⟩ := ih
    cases step with
    | up bears => exact ⟨base, _, starts, climbs.snoc bears, by simp [length]⟩
    | across find mem =>
      obtain ⟨rfl, rfl⟩ := climbs.here_of_plain rfl
      exact ⟨_, [], starts.across find mem, .here, length⟩
    | aside find _ leads =>
      obtain ⟨rfl, rfl⟩ := climbs.here_of_plain rfl
      exact ⟨_, [], starts.aside find leads, .here, length⟩

end Search

namespace Hunt

open Search

variable {hunt : Hunt} {met : List Element} {element top : Element} {chain : List String}

/-- A hit is a chain to the type, of no more annotations than the depth limit lets through. -/
theorem Hits.climbs (h : hunt.Hits) :
    ∃ base chain, hunt.search.Starts hunt.kind hunt.root base ∧ chain ≠ [] ∧
      hunt.search.Climbs hunt.kind base chain (.annotType hunt.target) ∧
      chain.length ≤ hunt.search.settings.maxMetaDepth + 1 := by
  obtain ⟨element, before, depth, annot, route, within, bears, own⟩ := h
  obtain ⟨base, chain, starts, climbs, length⟩ := route.climbs
  rw [← own]
  refine ⟨base, chain ++ [annot.type], starts, by simp, climbs.snoc bears, ?_⟩
  simp only [List.length_append, List.length_singleton]
  omega

/-- The root of a search is never cut off. -/
theorem not_cuts_root (hunt : Hunt) : ¬ hunt.Cuts hunt.root := by
  rintro ⟨before, depth, route, deep⟩
  rw [route.depth_root] at deep
  omega

/-- Nothing declared is cut off where there are no more annotation types than levels. -/
theorem not_cuts_of_declared
    (enough : hunt.search.reg.typeNames.length ≤ hunt.search.settings.maxMetaDepth)
    (declared : element ∈ hunt.search.reg.elements) : ¬ hunt.Cuts element := by
  rintro ⟨before, depth, route, deep⟩
  have bound := route.depth_le_types declared
  omega

/-- What is met and not cut off has nothing but what is met above it. -/
theorem Exhausted.closed (h : hunt.Exhausted met) (mem : element ∈ met)
    (uncut : ¬ hunt.Cuts element) : hunt.Closed met element :=
  (h.done element mem).resolve_left uncut

/-- A chain from an element met to an annotation that was not found leads through a type that is cut
off. -/
theorem Exhausted.cut_before (h : hunt.Exhausted met)
    (climbs : hunt.search.Climbs hunt.kind element chain (.annotType hunt.target))
    (nonempty : chain ≠ []) (mem : element ∈ met) (uncut : ¬ hunt.Cuts element) :
    ∃ type ∈ chain.dropLast, type ∈ hunt.search.reg.typeNames ∧ hunt.Cuts (.annotType type) := by
  generalize same : Element.annotType hunt.target = top at climbs
  induction climbs with
  | here => exact absurd rfl nonempty
  | @up element top annot chain bears rest ih =>
    have closed := h.closed mem uncut
    -- the first type on the chain is what was looked for, or is cut off, or the chain goes on from it
    cases rest with
    | here =>
      have own : annot.type = hunt.target := by
        injection same with own
        exact own.symm
      exact absurd own (closed.bare annot bears)
    | @up _ _ annot' chain bears' rest =>
      by_cases cuts : hunt.Cuts (.annotType annot.type)
      · obtain ⟨_, known⟩ := bears'.declared
        have declared := Registry.annotType_mem_elements.1 (Registry.mem_elements_of_declared known)
        exact ⟨annot.type, by simp, declared, cuts⟩
      · have above := closed.up annot bears
        obtain ⟨type, mem, found⟩ := ih (by simp) above cuts same
        exact ⟨type, by simp [mem], found⟩

/-- Classes and interfaces above a class that was met were met, where no element is cut off. -/
theorem Exhausted.above (h : hunt.Exhausted met) (find : hunt.kind = .find)
    (enough : hunt.search.reg.typeNames.length ≤ hunt.search.settings.maxMetaDepth)
    {name above : String} (mem : .classLike name ∈ met)
    (reaches : hunt.search.reg.hierarchy.Reaches name above) : .classLike above ∈ met := by
  have across {name above : String} (mem : .classLike name ∈ met)
      (next : above ∈ hunt.search.reg.hierarchy.next name) : .classLike above ∈ met := by
    have step : hunt.search.Next hunt.kind (.classLike name) (.classLike above) 0 := .across find next
    exact (h.closed mem (not_cuts_of_declared enough step.known)).across name above find rfl next
  induction reaches with
  | step next => exact across mem next
  | cons next _ ih => exact ih (across mem next)

/-- No method is cut off. -/
theorem not_cuts_method (hunt : Hunt) (ref : MethodRef) : ¬ hunt.Cuts (.method ref) := by
  rintro ⟨before, depth, route, deep⟩
  rw [route.depth_method] at deep
  omega

/-- No question keeps the search from the methods that its root leads to. -/
def Answered (hunt : Hunt) : Prop :=
  hunt.kind = .find → ∀ ref there, hunt.root = .method ref →
    ReflTransGen hunt.search.reg.Leads ref there →
    ReflTransGen hunt.search.reg.SurelyLeads ref there

/-- A search from a class or an annotation type on, or for what is present on the element itself,
follows no methods. -/
def Plain (hunt : Hunt) : Prop := hunt.kind = .find → ∀ ref, hunt.root ≠ .method ref

theorem Plain.answered (h : hunt.Plain) : hunt.Answered :=
  fun find ref _ root => absurd root (h find ref)

/-- The methods that a method surely leads to were met with it. -/
theorem Exhausted.beside (h : hunt.Exhausted met) (find : hunt.kind = .find) {ref there : MethodRef}
    (mem : .method ref ∈ met) (way : ReflTransGen hunt.search.reg.SurelyLeads ref there) :
    .method there ∈ met := by
  induction way with
  | refl => exact mem
  | @tail other there way sure ih =>
    have closed := h.closed ih (hunt.not_cuts_method other)
    exact closed.aside other there find rfl sure.answers sure.leads

/-- Where a chain can start was met. -/
theorem Exhausted.mem_of_starts (h : hunt.Exhausted met) (answered : hunt.Answered)
    (enough : hunt.search.reg.typeNames.length ≤ hunt.search.settings.maxMetaDepth)
    {base : Element} (starts : hunt.search.Starts hunt.kind hunt.root base) : base ∈ met := by
  generalize same : hunt.root = root at starts
  cases starts with
  | stands stands =>
    cases stands with
    | here => exact same ▸ h.root
    | above find reaches => exact h.above find enough (same ▸ h.root) reaches
  | beside find way =>
    exact h.beside find (same ▸ h.root) (answered find _ _ same way)

/-- Where there are no more annotation types than levels, a search that found nothing is at the end of
no chain. -/
theorem Exhausted.no_chain (h : hunt.Exhausted met) (answered : hunt.Answered)
    (enough : hunt.search.reg.typeNames.length ≤ hunt.search.settings.maxMetaDepth)
    {base : Element} (starts : hunt.search.Starts hunt.kind hunt.root base) (nonempty : chain ≠ []) :
    ¬ hunt.search.Climbs hunt.kind base chain (.annotType hunt.target) := by
  intro climbs
  have mem := h.mem_of_starts answered enough starts
  have uncut : ¬ hunt.Cuts base := by
    cases climbs with
    | here => exact absurd rfl nonempty
    | up bears _ =>
      obtain ⟨_, known⟩ := bears.declared
      exact not_cuts_of_declared enough (Registry.mem_elements_of_declared known)
  obtain ⟨type, _, declared, cuts⟩ := h.cut_before climbs nonempty mem uncut
  exact not_cuts_of_declared enough (Registry.annotType_mem_elements.2 declared) cuts

end Hunt
end Annotations
