import Annotations.Proofs.Graph.Reordered
import Annotations.Proofs.Search.Chains
import Mathlib.Data.List.Nodup

/-!
The depth limit of a get search. An annotation lies within it if a short enough chain leads there. A
search walks one chain first and meets no element twice, so a type that it comes to on a detour, below
the limit, is cut off however short other chains to it are.
-/
namespace Annotations
namespace Search

variable {search : Search} {element : Element} {type : String}

/-- A chain leads from the element to the type within the depth limit. -/
def Within (search : Search) (element : Element) (type : String) : Prop :=
  ∃ chain, chain ≠ [] ∧ search.Climbs .get element chain (.annotType type) ∧
    chain.length ≤ search.settings.maxMetaDepth + 1

/-- A chain that comes to nothing twice leads from the element to the type below the depth limit. -/
def Strays (search : Search) (element : Element) (type : String) : Prop :=
  ∃ chain, search.Climbs .get element chain (.annotType type) ∧
    (element :: chain.map .annotType).Nodup ∧ search.settings.maxMetaDepth < chain.length

/-- A chain leads from the element to the type through none that is on a detour. -/
def Clear (search : Search) (element : Element) (type : String) : Prop :=
  ∃ chain, chain ≠ [] ∧ search.Climbs .get element chain (.annotType type) ∧
    ∀ between ∈ chain.dropLast, ¬ search.Strays element between

/-- A way of a get search is a chain from its root. -/
theorem Route.chain {root : Element} {before : List Element} {depth : Nat}
    (h : search.Route .get root element before depth) :
    ∃ chain, search.Climbs .get root chain element ∧ chain.length = depth ∧
      (root :: chain.map .annotType).reverse = element :: before := by
  induction h with
  | start => exact ⟨[], .here, rfl, rfl⟩
  | @next element there before depth cost _ step _ ih =>
    obtain ⟨chain, climbs, length, passed⟩ := ih
    cases step with
    | @up _ annot bears =>
      refine ⟨chain ++ [annot.type], climbs.snoc bears, by simp [length], ?_⟩
      rw [← passed]
      simp
    | across find _ => cases find
    | aside find _ _ => cases find

/-- A type on a way below the depth limit is on a detour. -/
theorem Route.strays {before : List Element} {depth : Nat}
    (h : search.Route .get element (.annotType type) before depth)
    (deep : search.settings.maxMetaDepth < depth) : search.Strays element type := by
  obtain ⟨chain, climbs, rfl, passed⟩ := h.chain
  refine ⟨chain, climbs, ?_, deep⟩
  rw [← List.nodup_reverse, passed]
  exact h.nodup

/-- The annotations that a search can look at on an element. -/
def borne (search : Search) (kind : SearchKind) (element : Element) : List Annot :=
  search.candidates ((search.reg.declaredAnnots element).toOption.getD []) ++
    match kind, element with
    | .get, .classLike name => search.candidates ((search.reg.inheritedAnnots name).toOption.getD [])
    | _, _ => []

theorem Bears.mem_borne {kind : SearchKind} {annot : Annot} (h : search.Bears kind element annot) :
    annot ∈ search.borne kind element := by
  have plain : (!search.settings.isBuiltin annot.type) = true := by simp [h.plain]
  rcases h.there with ⟨annots, known, mem⟩ | ⟨name, annots, rfl, rfl, known, mem⟩
  · refine List.mem_append_left _ (List.mem_filter.2 ⟨?_, plain⟩)
    rw [known]
    exact mem
  · refine List.mem_append_right _ (List.mem_filter.2 ⟨?_, plain⟩)
    rw [known]
    exact mem

/-- A measure that falls with each annotation bounds how long chains are. -/
theorem Climbs.length_le {kind : SearchKind} {chain : List String} {top : Element}
    (rank : Element → Nat)
    (falls : ∀ element ∈ search.reg.elements, ∀ annot ∈ search.borne kind element,
      rank (.annotType annot.type) < rank element)
    (h : search.Climbs kind element chain top) : rank top + chain.length ≤ rank element := by
  induction h with
  | here => simp
  | up bears _ ih =>
    obtain ⟨_, known⟩ := bears.declared
    have fall := falls _ (Registry.mem_elements_of_declared known) _ bears.mem_borne
    rw [List.length_cons]
    omega

section

variable {reg' : Registry} (h : search.reg.Reordered reg')

include h

theorem Bears.reordered {annot : Annot} (bears : search.Bears .get element annot) :
    ∃ annot', ({ search with reg := reg' } : Search).Bears .get element annot' ∧
      annot'.type = annot.type := by
  have plain := bears.plain
  rcases bears.there with ⟨annots, known, mem⟩ | ⟨name, annots, _, rfl, known, mem⟩
  · obtain ⟨annots', known', perm⟩ := h.declaredAnnots element annots known
    exact ⟨annot, ⟨.inl ⟨annots', known', perm.mem_iff.1 mem⟩, plain⟩, rfl⟩
  · obtain ⟨annots', known', same⟩ := h.inheritedAnnots name annots known
    obtain ⟨annot', mem', own⟩ := List.mem_map.1 ((same _).1 (List.mem_map_of_mem mem))
    exact ⟨annot', ⟨.inr ⟨name, annots', rfl, rfl, known', mem'⟩, own ▸ plain⟩, own⟩

/-- The order of annotations makes no difference to chains. -/
theorem Climbs.reordered {chain : List String} {top : Element}
    (climbs : search.Climbs .get element chain top) :
    ({ search with reg := reg' } : Search).Climbs .get element chain top := by
  induction climbs with
  | here => exact .here
  | up bears _ ih =>
    obtain ⟨annot', bears', own⟩ := bears.reordered h
    rw [← own] at ih ⊢
    exact .up bears' ih

theorem Within.reordered (within : search.Within element type) :
    ({ search with reg := reg' } : Search).Within element type := by
  obtain ⟨chain, nonempty, climbs, short⟩ := within
  exact ⟨chain, nonempty, climbs.reordered h, short⟩

theorem Strays.reordered (strays : search.Strays element type) :
    ({ search with reg := reg' } : Search).Strays element type := by
  obtain ⟨chain, climbs, once, deep⟩ := strays
  exact ⟨chain, climbs.reordered h, once, deep⟩

theorem Clear.reordered (clear : search.Clear element type) :
    ({ search with reg := reg' } : Search).Clear element type := by
  obtain ⟨chain, nonempty, climbs, direct⟩ := clear
  have back : ({ search with reg := reg' } : Search).reg.Reordered search.reg := h.symm
  refine ⟨chain, nonempty, climbs.reordered h, fun between mem strays => ?_⟩
  have strays := strays.reordered back
  exact direct between mem strays

end
end Search

namespace Hunt

open Search

variable {search : Search} {element : Element} {type : String}

/-- What a get search finds lies within the depth limit. -/
theorem Hits.within (h : (⟨search, .get, type, element⟩ : Hunt).Hits) :
    search.Within element type := by
  obtain ⟨base, chain, starts, nonempty, climbs, short⟩ := h.climbs
  have plain : SearchKind.get = .find → ∀ ref, element ≠ .method ref := fun find => by cases find
  cases starts.of_plain plain with
  | here => exact ⟨chain, nonempty, climbs, short⟩
  | above find _ => cases find

/-- Each chain to an annotation that a get search does not find leads through a type on a detour. -/
theorem Exhausted.not_clear {met : List Element}
    (h : (⟨search, .get, type, element⟩ : Hunt).Exhausted met) : ¬ search.Clear element type := by
  rintro ⟨chain, nonempty, climbs, direct⟩
  obtain ⟨between, mem, _, before, depth, route, deep⟩ :=
    h.cut_before climbs nonempty h.root (not_cuts_root _)
  exact direct between mem (route.strays deep)

end Hunt
end Annotations
