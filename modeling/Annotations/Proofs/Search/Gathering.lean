import Annotations.Engine
import Annotations.Proofs.Search.Routes
import Mathlib.Logic.Relation

/-!
What a search gathers that collects types and never ends before it has met all: from an annotation
type on, with a level for each type, the types to which steps from a type to its meta-annotations
lead. A type is gathered when it is met on another type, so one that the search comes back to is
gathered although it is not expanded again.
-/
namespace Annotations

open Annotations.Action
open Relation (ReflTransGen TransGen)

namespace Search

/-- One annotation type has another, not built-in one among its meta-annotations. -/
def MetaStep (search : Search) (below above : String) : Prop :=
  ∃ decl, search.reg.type below = .ok decl ∧ above ∈ decl.metaTypes ∧
    search.settings.isBuiltin above = false

/-- All that one step leads to from a type is gathered and met. -/
def Gathered (search : Search) (name : String) (walk : Walk (List String)) : Prop :=
  ∀ above, search.MetaStep name above → above ∈ walk.state ∧ .annotType above ∈ walk.visited

/-- How a search from a root changes what is met and gathered: it gathers only what steps lead to,
each type once, and all that one step leads to from what it newly meets. -/
structure Gathers (search : Search) (root : String) (walk walk' : Walk (List String)) : Prop where
  met : walk.visited ⊆ walk'.visited
  kept : walk.state ⊆ walk'.state
  once : walk.state.Nodup → walk'.state.Nodup
  sound : ∀ type ∈ walk'.state, type ∈ walk.state ∨ TransGen search.MetaStep root type
  done : ∀ name, .annotType name ∈ walk'.visited →
    .annotType name ∈ walk.visited ∨ search.Gathered name walk'

/-- From all walks that have met some elements a step finds nothing, but gathers, and learns
something. -/
def Gathering (search : Search) (root : String) (before : List Element)
    (learned : Walk (List String) → Prop) (f : Action (Walk (List String)) (Option Unit)) : Prop :=
  ∀ walk, before ⊆ walk.visited →
    ∃ walk', f walk = (.ok none, walk') ∧ search.Gathers root walk walk' ∧ learned walk'

variable {search : Search} {root name : String} {decl : AnnotType}
  {walk walk' walk'' : Walk (List String)}

theorem metaStep_iff (known : search.reg.type name = .ok decl) {above : String} :
    search.MetaStep name above ↔ ∃ annot ∈ search.candidates decl.metas, annot.type = above := by
  simp only [MetaStep, known, Except.ok.injEq, candidates, List.mem_filter, AnnotType.metaTypes,
    List.mem_map]
  constructor
  · rintro ⟨_, rfl, ⟨annot, mem, rfl⟩, plain⟩
    exact ⟨annot, ⟨mem, by simpa using plain⟩, rfl⟩
  · rintro ⟨annot, ⟨mem, plain⟩, rfl⟩
    exact ⟨_, rfl, ⟨annot, mem, rfl⟩, by simpa using plain⟩

theorem Gathered.mono (h : search.Gathered name walk) (gathers : search.Gathers root walk walk') :
    search.Gathered name walk' :=
  fun above step => ⟨gathers.kept (h above step).1, gathers.met (h above step).2⟩

namespace Gathers

/-- A walk on which only other things changed. -/
theorem idle (met : walk'.visited = walk.visited) (kept : walk'.state = walk.state) :
    search.Gathers root walk walk' where
  met := met ▸ List.Subset.refl _
  kept := kept ▸ List.Subset.refl _
  once distinct := kept ▸ distinct
  sound _ mem := .inl (kept ▸ mem)
  done _ mem := .inl (met ▸ mem)

theorem trans (h : search.Gathers root walk walk') (h' : search.Gathers root walk' walk'') :
    search.Gathers root walk walk'' where
  met := List.Subset.trans h.met h'.met
  kept := List.Subset.trans h.kept h'.kept
  once distinct := h'.once (h.once distinct)
  sound type mem := (h'.sound type mem).elim (h.sound type) .inr
  done name mem :=
    (h'.done name mem).elim (fun old => (h.done name old).imp_right (·.mono h')) .inr

end Gathers

namespace Gathering

variable {before : List Element} {learned learned' : Walk (List String) → Prop}
  {f g : Action (Walk (List String)) (Option Unit)}

theorem none (h : ∀ walk, learned walk) : search.Gathering root before learned (pure .none) :=
  fun walk _ => ⟨walk, rfl, .idle rfl rfl, h walk⟩

theorem imp (h : search.Gathering root before learned f)
    (hl : ∀ walk, learned walk → learned' walk) : search.Gathering root before learned' f := by
  intro walk begun
  obtain ⟨walk', ends, gathers, known⟩ := h walk begun
  exact ⟨walk', ends, gathers, hl _ known⟩

theorem orElse (h : search.Gathering root before learned f)
    (lasting : ∀ walk walk', search.Gathers root walk walk' → learned walk → learned walk')
    (h' : search.Gathering root before learned' g) :
    search.Gathering root before (fun walk => learned walk ∧ learned' walk)
      (Walk.orElse f g) := by
  intro walk begun
  obtain ⟨mid, ends, gathers, known⟩ := h walk begun
  obtain ⟨last, ends', gathers', known'⟩ := h' mid (List.Subset.trans begun gathers.met)
  refine ⟨last, ?_, gathers.trans gathers', lasting _ _ gathers' known, known'⟩
  simp only [Walk.orElse, bind_apply, ends]
  exact ends'

theorem firstSome {α : Type} {items : List α}
    {step : α → Action (Walk (List String)) (Option Unit)}
    {learned : α → Walk (List String) → Prop}
    (lasting : ∀ item walk walk', search.Gathers root walk walk' → learned item walk →
      learned item walk')
    (h : ∀ item ∈ items, search.Gathering root before (learned item) (step item)) :
    search.Gathering root before (fun walk => ∀ item ∈ items, learned item walk)
      (Walk.firstSome step items) := by
  induction items with
  | nil => exact none fun _ => by simp
  | cons item rest ih =>
    have both : search.Gathering root before _ (Walk.firstSome step (item :: rest)) :=
      (h item (.head rest)).orElse (lasting item) (ih fun other mem => h other (.tail item mem))
    exact both.imp fun walk known => List.forall_mem_cons.2 known

/-- A type that is entered is met, and all that one step leads to from there is gathered. -/
theorem enter (h : .annotType name ∉ before →
      search.Gathering root (.annotType name :: before) (search.Gathered name) f) :
    search.Gathering root before (.annotType name ∈ ·.visited)
      (Walk.visit (.annotType name) f) := by
  intro walk begun
  by_cases seen : .annotType name ∈ walk.visited
  · rw [Walk.visit_of_mem seen]
    exact ⟨walk, rfl, .idle rfl rfl, seen⟩
  · rw [Walk.visit_of_not_mem seen]
    obtain ⟨walk', ends, gathers, gathered⟩ := h (fun mem => seen (begun mem))
      { walk with visited := .annotType name :: walk.visited } (List.cons_subset_cons _ begun)
    refine ⟨walk', ends, ⟨fun other mem => gathers.met (.tail _ mem), gathers.kept, gathers.once,
      gathers.sound, fun other mem => ?_⟩, gathers.met (.head _)⟩
    rcases gathers.done other mem with old | done
    · rcases List.mem_cons.1 old with same | old
      · cases same
        exact .inr gathered
      · exact .inl old
    · exact .inr done

end Gathering

section

variable {target : String} {before : List Element} {depth : Nat}
  {descend : Descend (List String) Unit}

/-- A type that is met on another one is gathered. -/
theorem offer_gathering {element : Element} {annot : Annot} (deep : 0 < depth)
    (step : TransGen search.MetaStep root annot.type) :
    search.Gathering root before (annot.type ∈ ·.state)
      (offer target collectTypes element depth annot) := by
  intro walk _
  have offered : offer target collectTypes element depth annot walk =
      (.ok none, { walk with state := if walk.state.contains annot.type then walk.state
        else walk.state ++ [annot.type] }) := by
    simp only [offer, deep, decide_true, Bool.true_or, if_true, Walk.onState, collectTypes]
    rfl
  refine ⟨_, offered, ?_⟩
  by_cases there : annot.type ∈ walk.state
  · rw [if_pos (by simpa using there)]
    exact ⟨.idle rfl rfl, there⟩
  · rw [if_neg (by simpa using there)]
    refine ⟨⟨List.Subset.refl _, List.subset_append_left _ _, fun distinct => ?_,
      fun type mem => ?_, fun _ => .inl⟩, by simp⟩
    · refine List.nodup_append.2 ⟨distinct, by simp, fun old mem new last same => there ?_⟩
      cases List.mem_singleton.1 last
      exact same ▸ mem
    · rcases List.mem_append.1 mem with old | new
      · exact .inl old
      · cases List.mem_singleton.1 new
        exact .inr step

/-- The types on a type are gathered, and then met. -/
theorem inAnnots_gathering (known : search.reg.type name = .ok decl) (deep : 0 < depth)
    (below : ReflTransGen search.MetaStep root name)
    (hd : ∀ above, search.MetaStep name above →
      search.Gathering root before (.annotType above ∈ ·.visited)
        (descend (.annotType above) (depth + 1))) :
    search.Gathering root before (search.Gathered name)
      (search.inAnnots target collectTypes descend (.annotType name) depth decl.metas) := by
  have steps {annot : Annot} (mem : annot ∈ search.candidates decl.metas) :
      search.MetaStep name annot.type := (metaStep_iff known).2 ⟨annot, mem, rfl⟩
  have gathered : search.Gathering root before
      (fun walk => ∀ annot ∈ search.candidates decl.metas, annot.type ∈ walk.state)
      (Walk.firstSome (offer target collectTypes (.annotType name) depth)
        (search.candidates decl.metas)) :=
    .firstSome (fun _ _ _ gathers mem => gathers.kept mem) fun annot mem =>
      offer_gathering deep (.tail' below (steps mem))
  have met : search.Gathering root before
      (fun walk => ∀ annot ∈ search.candidates decl.metas, .annotType annot.type ∈ walk.visited)
      (Walk.firstSome (ascend collectTypes descend (.annotType name) depth)
        (search.candidates decl.metas)) := by
    refine .firstSome (fun annot _ _ gathers mem => gathers.met mem) fun annot mem walk begun => ?_
    obtain ⟨walk', ends, learned⟩ := hd annot.type (steps mem) walk begun
    refine ⟨walk', ?_, learned⟩
    simp [ascend, bind_apply, ends]
  have both := gathered.orElse (fun _ _ gathers all annot mem => gathers.kept (all annot mem)) met
  refine both.imp fun walk all above step => ?_
  obtain ⟨annot, mem, rfl⟩ := (metaStep_iff known).1 step
  exact ⟨all.1 annot mem, all.2 annot mem⟩

/-- Nothing is gathered from a type that is not known. -/
theorem expand_gathering_unknown {e : Error} (unknown : search.reg.type name = .error e) :
    search.Gathering root before (search.Gathered name)
      (Walk.recover (.annotType name)
        (search.expand .get target collectTypes descend (.annotType name) depth)) := by
  intro walk _
  have nothing (walk : Walk (List String)) : search.Gathered name walk := by
    rintro above ⟨_, known, _⟩
    cases unknown.symm.trans known
  have failed : ∃ e, e.isConfiguration = false ∧
      search.expand .get target collectTypes descend (.annotType name) depth walk =
        (.error e, walk) := by
    have harmless := search.checkDepth_harmless (.annotType name) depth
    unfold expand
    cases within : search.checkDepth (.annotType name) depth with
    | error e => exact ⟨e, harmless e within, rfl⟩
    | ok _ =>
      refine ⟨e, search.reg.type_harmless name e unknown, ?_⟩
      simp only [Registry.declaredAnnots, unknown, bind_apply, lift_apply]
      rfl
  obtain ⟨e, harmless, failed⟩ := failed
  refine ⟨walk.record (.failure (Element.annotType name).kind), ?_, .idle rfl rfl, nothing _⟩
  simp [Walk.recover, failed, harmless]

/-- From a known type within the depth limit all is gathered. -/
theorem expand_gathering (known : search.reg.type name = .ok decl) (deep : 0 < depth)
    (within : depth ≤ search.settings.maxMetaDepth)
    (below : ReflTransGen search.MetaStep root name)
    (hd : ∀ above, search.MetaStep name above →
      search.Gathering root before (.annotType above ∈ ·.visited)
        (descend (.annotType above) (depth + 1))) :
    search.Gathering root before (search.Gathered name)
      (Walk.recover (.annotType name)
        (search.expand .get target collectTypes descend (.annotType name) depth)) := by
  have passed : search.checkDepth (.annotType name) depth = .ok () := by
    simp [checkDepth, Nat.not_lt.2 within]
  have declared : search.reg.declaredAnnots (.annotType name) = .ok decl.metas := by
    simp [Registry.declaredAnnots, known, bind, Except.bind, pure, Except.pure]
  have metas : search.Gathering root before (search.Gathered name)
      (search.inAnnots target collectTypes descend (.annotType name) depth decl.metas) :=
    inAnnots_gathering known deep below hd
  have beyond : search.Gathering root before (fun _ => True)
      (search.beyond .get target collectTypes descend (.annotType name) depth) :=
    .none fun _ => trivial
  have all := metas.orElse (fun _ _ gathers gathered => gathered.mono gathers) beyond
  intro walk begun
  obtain ⟨walk', ends, gathers, gathered, _⟩ := all walk begun
  refine ⟨walk', ?_, gathers, gathered⟩
  have expanded : search.expand .get target collectTypes descend (.annotType name) depth walk =
      (.ok none, walk') := by
    simp only [expand, passed, declared, bind_apply, lift_apply]
    exact ends
  simp [Walk.recover, expanded]

end

/-- A type that steps lead to is met, if there is a level for each type: the types being expanded
are registered and distinct, so there are fewer of them than levels and than there is fuel for. -/
theorem searchElement_gathering {target : String} (fuel : Nat) {before : List String}
    (enough : search.reg.typeNames.length ≤ search.settings.maxMetaDepth)
    (fueled : search.reg.typeNames.length < fuel + before.length) (distinct : before.Nodup)
    (known : before ⊆ search.reg.typeNames) (below : ReflTransGen search.MetaStep root name) :
    search.Gathering root (before.map .annotType) (.annotType name ∈ ·.visited)
      (search.searchElement .get target collectTypes fuel (.annotType name)
        (before.length + 1)) := by
  induction fuel generalizing before name with
  | zero =>
    have bound := (List.subperm_of_subset distinct known).length_le
    omega
  | succ fuel ih =>
    refine .enter fun fresh => ?_
    cases registered : search.reg.type name with
    | error e => exact expand_gathering_unknown registered
    | ok decl =>
      have mem : name ∈ search.reg.typeNames :=
        List.mem_map.2 ⟨_, Registry.mem_of_type registered, rfl⟩
      have distinct' : (name :: before).Nodup :=
        List.nodup_cons.2 ⟨fun old => fresh (List.mem_map_of_mem old), distinct⟩
      have known' : name :: before ⊆ search.reg.typeNames := List.cons_subset.2 ⟨mem, known⟩
      have bound := (List.subperm_of_subset distinct' known').length_le
      have fueled' : search.reg.typeNames.length < fuel + (name :: before).length := by
        rw [List.length_cons]
        omega
      exact expand_gathering registered (Nat.succ_pos _) (Nat.le_trans bound enough) below
        fun above step => ih fueled' distinct' known' (below.tail step)

/-- From a type on, all types are gathered that steps lead to, each once. -/
theorem searchFrom_gathers (enough : search.reg.typeNames.length ≤ search.settings.maxMetaDepth)
    (target root : String) (walk : Walk (List String)) (begun : walk.state = []) :
    ∃ walk', search.searchFrom .get target collectTypes (.annotType root) 1 walk =
        (.ok none, walk') ∧
      walk'.state.Nodup ∧ ∀ type, type ∈ walk'.state ↔ TransGen search.MetaStep root type := by
  have fueled : search.reg.typeNames.length < search.fuel + ([] : List String).length := by
    simp only [fuel, Registry.typeNames, Entries.names, List.length_map, List.length_nil]
    omega
  have gathering : search.Gathering root [] (.annotType root ∈ ·.visited)
      (search.searchElement .get target collectTypes search.fuel (.annotType root) 1) :=
    searchElement_gathering search.fuel enough fueled List.nodup_nil (List.nil_subset _) .refl
  obtain ⟨walk', ends, gathers, rooted⟩ := gathering { walk with visited := [] } (List.nil_subset _)
  have gathered : ∀ name, .annotType name ∈ walk'.visited → search.Gathered name walk' :=
    fun name mem => (gathers.done name mem).resolve_left (List.not_mem_nil)
  have met : ∀ name, ReflTransGen search.MetaStep root name → .annotType name ∈ walk'.visited := by
    intro name way
    induction way with
    | refl => exact rooted
    | tail _ step ih => exact (gathered _ ih _ step).2
  refine ⟨walk', ends, gathers.once (begun ▸ List.nodup_nil), fun type =>
    ⟨fun mem => ?_, fun way => ?_⟩⟩
  · exact (gathers.sound type mem).resolve_left (by simp [begun])
  · obtain ⟨last, way, step⟩ := TransGen.tail'_iff.1 way
    exact (gathered last (met last way) type step).1

end Search
end Annotations
