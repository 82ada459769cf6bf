import Annotations.Proofs.Search.Presence
import Annotations.Proofs.Search.Routes

/-!
What the steps of a search for presence sweep. A step that finds something does so on one of the ways of
the search, within its depth. A step that finds nothing leaves each element that it met without an
annotation of the type and with all that it leads to met too, unless some way comes there below the
depth limit.
-/
namespace Annotations

open Annotations.Action

/-- A search for the presence of annotations of a type, from a root on. -/
structure Hunt where
  search : Search
  kind : SearchKind
  target : String
  root : Element

namespace Hunt

variable (hunt : Hunt)

/-- Some way leads, within the depth limit, to an element with an annotation of the type. -/
def Hits : Prop :=
  ∃ element before depth annot, hunt.search.Route hunt.kind hunt.root element before depth ∧
    depth ≤ hunt.search.settings.maxMetaDepth ∧ hunt.search.Bears hunt.kind element annot ∧
    annot.type = hunt.target

/-- Some way leads to an element below the depth limit. -/
def Cuts (element : Element) : Prop :=
  ∃ before depth, hunt.search.Route hunt.kind hunt.root element before depth ∧
    hunt.search.settings.maxMetaDepth < depth

/-- An element without annotations of the type, all that it leads to being met, for a method unless
some question about it has no answer. -/
structure Closed (met : List Element) (element : Element) : Prop where
  bare : ∀ annot, hunt.search.Bears hunt.kind element annot → annot.type ≠ hunt.target
  up : ∀ annot, hunt.search.Bears hunt.kind element annot → .annotType annot.type ∈ met
  across : ∀ name above, hunt.kind = .find → element = .classLike name →
    above ∈ hunt.search.reg.hierarchy.next name → .classLike above ∈ met
  aside : ∀ ref there, hunt.kind = .find → element = .method ref → hunt.search.reg.Unhindered ref →
    hunt.search.reg.Leads ref there → .method there ∈ met

/-- The elements newly met are all closed or cut off by the depth limit. -/
structure Covers (met met' : List Element) : Prop where
  grows : met ⊆ met'
  done : ∀ element ∈ met', element ∈ met ∨ hunt.Cuts element ∨ hunt.Closed met' element

variable {hunt} {met met' met'' : List Element} {element : Element}

theorem Closed.mono (h : hunt.Closed met element) (grows : met ⊆ met') :
    hunt.Closed met' element where
  bare := h.bare
  up annot bears := grows (h.up annot bears)
  across name above find own mem := grows (h.across name above find own mem)
  aside ref there find own answers leads := grows (h.aside ref there find own answers leads)

theorem Covers.refl (met : List Element) : hunt.Covers met met :=
  ⟨fun _ mem => mem, fun _ mem => .inl mem⟩

theorem Covers.trans (h : hunt.Covers met met') (h' : hunt.Covers met' met'') :
    hunt.Covers met met'' where
  grows := List.Subset.trans h.grows h'.grows
  done element mem := by
    rcases h'.done element mem with before | done
    · rcases h.done element before with before | cuts | closed
      · exact .inl before
      · exact .inr (.inl cuts)
      · exact .inr (.inr (closed.mono h'.grows))
    · exact .inr done

/-- A walk that goes on from some elements met: the new ones are covered, and what it keeps about
interfaces is right. -/
structure Goes (hunt : Hunt) (met : List Element) (walk : Walk Unit) : Prop where
  covers : hunt.Covers met walk.visited
  sound : hunt.search.reg.InterfacesSound walk.interfaces

/-- How a step of the search ends: with a hit, or else with what it learned about the elements met;
steps that may fail do so harmlessly and have learned the same. -/
inductive Swept (hunt : Hunt) (fails : Prop) (learned : List Element → Prop) (met : List Element) :
    Except Error (Option Unit) × Walk Unit → Prop
  | found {walk : Walk Unit} : hunt.Hits → hunt.Swept fails learned met (.ok (some ()), walk)
  | none {walk : Walk Unit} : hunt.Goes met walk → learned walk.visited →
    hunt.Swept fails learned met (.ok none, walk)
  | failed {e : Error} {walk : Walk Unit} : fails → e.isConfiguration = false →
    hunt.Goes met walk → learned walk.visited → hunt.Swept fails learned met (.error e, walk)

/-- From all walks that have met some elements a step sweeps. -/
def Sweeps (hunt : Hunt) (fails : Prop) (before : List Element) (learned : List Element → Prop)
    (f : Action (Walk Unit) (Option Unit)) : Prop :=
  ∀ walk, before ⊆ walk.visited → hunt.search.reg.InterfacesSound walk.interfaces →
    hunt.Swept fails learned walk.visited (f walk)

/-- What holds of the elements met and goes on to hold when there are more. -/
def Lasting (learned : List Element → Prop) : Prop :=
  ∀ met met', met ⊆ met' → learned met → learned met'

namespace Sweeps

variable {fails fails' : Prop} {before : List Element} {learned learned' : List Element → Prop}
  {f g : Action (Walk Unit) (Option Unit)}

theorem none (h : ∀ met, before ⊆ met → learned met) :
    hunt.Sweeps fails before learned (pure .none) :=
  fun walk begun sound => .none ⟨.refl _, sound⟩ (h walk.visited begun)

theorem imp (h : hunt.Sweeps fails before learned f) (may : fails → fails')
    (hl : ∀ met, before ⊆ met → learned met → learned' met) :
    hunt.Sweeps fails' before learned' f := by
  intro walk begun sound
  have ends := h walk begun sound
  generalize f walk = left at ends
  cases ends with
  | found hit => exact .found hit
  | none goes known => exact .none goes (hl _ (List.Subset.trans begun goes.covers.grows) known)
  | failed fails harmless goes known =>
    exact .failed (may fails) harmless goes
      (hl _ (List.Subset.trans begun goes.covers.grows) known)

/-- Where the first step fails, what the second would have learned has to be known. -/
theorem orElse (h : hunt.Sweeps fails before learned f) (lasting : Lasting learned)
    (h' : hunt.Sweeps fails' before learned' g)
    (excused : fails → fails' ∧ ∀ met, before ⊆ met → learned' met) :
    hunt.Sweeps fails' before (fun met => learned met ∧ learned' met) (Walk.orElse f g) := by
  intro walk begun sound
  have ends := h walk begun sound
  simp only [Walk.orElse, bind_apply]
  generalize f walk = left at ends
  cases ends with
  | found hit => exact .found hit
  | failed fails harmless goes known =>
    obtain ⟨may, excuse⟩ := excused fails
    exact .failed may harmless goes
      ⟨known, excuse _ (List.Subset.trans begun goes.covers.grows)⟩
  | @none after goes known =>
    have ends' := h' after (List.Subset.trans begun goes.covers.grows) goes.sound
    simp only
    generalize g after = right at ends'
    cases ends' with
    | found hit => exact .found hit
    | none goes' known' =>
      exact .none ⟨goes.covers.trans goes'.covers, goes'.sound⟩
        ⟨lasting _ _ goes'.covers.grows known, known'⟩
    | failed may harmless goes' known' =>
      exact .failed may harmless ⟨goes.covers.trans goes'.covers, goes'.sound⟩
        ⟨lasting _ _ goes'.covers.grows known, known'⟩

theorem firstSome {α : Type} {items : List α} {step : α → Action (Walk Unit) (Option Unit)}
    {learned : α → List Element → Prop} (lasting : ∀ item, Lasting (learned item))
    (excused : fails → ∀ item ∈ items, ∀ met, before ⊆ met → learned item met)
    (h : ∀ item ∈ items, hunt.Sweeps fails before (learned item) (step item)) :
    hunt.Sweeps fails before (fun met => ∀ item ∈ items, learned item met)
      (Walk.firstSome step items) := by
  induction items with
  | nil => exact .none fun _ _ => by simp
  | cons item rest ih =>
    have first := h item (.head rest)
    have later := ih (fun may other mem => excused may other (.tail item mem))
      fun other mem => h other (.tail item mem)
    have both : hunt.Sweeps fails before _ (Walk.firstSome step (item :: rest)) :=
      first.orElse (lasting item) later fun may =>
        ⟨may, fun met begun other mem => excused may other (.tail item mem) met begun⟩
    refine both.imp id fun met _ known other mem => ?_
    rcases List.mem_cons.1 mem with rfl | mem
    · exact known.1
    · exact known.2 other mem

/-- A question to the registry may fail, if not before something was found. -/
theorem asking {α : Type} {outcome : Except Error α} (harmless : Registry.Harmless outcome)
    {k : α → Action (Walk Unit) (Option Unit)}
    (failed : ∀ e, outcome = .error e → fails ∧ ∀ met, before ⊆ met → learned met)
    (h : ∀ a, outcome = .ok a → hunt.Sweeps fails before learned (k a)) :
    hunt.Sweeps fails before learned (liftM outcome >>= k) := by
  intro walk begun sound
  rw [bind_apply, lift_apply]
  cases outcome with
  | ok a => exact h a rfl walk begun sound
  | error e =>
    obtain ⟨may, excuse⟩ := failed e rfl
    exact .failed may (harmless e rfl) ⟨.refl _, sound⟩ (excuse _ begun)

/-- A question about an interface may have been answered before. -/
theorem askingInterface {name : String} {k : Bool → Action (Walk Unit) (Option Unit)}
    (failed : ∀ e, hunt.search.reg.hasAnnotatedMethods name = .error e →
      fails ∧ ∀ met, before ⊆ met → learned met)
    (h : ∀ annotated, hunt.search.reg.hasAnnotatedMethods name = .ok annotated →
      hunt.Sweeps fails before learned (k annotated)) :
    hunt.Sweeps fails before learned (hunt.search.hasAnnotatedMethods name >>= k) := by
  intro walk begun sound
  obtain ⟨interfaces, events, sound', answer⟩ :=
    hunt.search.hasAnnotatedMethods_learns name walk sound
  rw [bind_apply, answer]
  cases outcome : hunt.search.reg.hasAnnotatedMethods name with
  | ok annotated => exact h annotated outcome { walk with interfaces, events } begun sound'
  | error e =>
    obtain ⟨may, excuse⟩ := failed e outcome
    exact .failed may (hunt.search.reg.hasAnnotatedMethods_harmless name e outcome)
      ⟨.refl _, sound'⟩ (excuse _ begun)

theorem recover (h : hunt.Sweeps fails before learned f) :
    hunt.Sweeps False before learned (Walk.recover element f) := by
  intro walk begun sound
  have ends := h walk begun sound
  simp only [Walk.recover]
  generalize f walk = left at ends
  cases ends with
  | found hit => exact .found hit
  | none goes known => exact .none goes known
  | failed _ harmless goes known =>
    simp only [harmless, Bool.false_eq_true, if_false]
    exact .none ⟨goes.covers, goes.sound⟩ known

/-- An element is met, and where it was not met before it is done. -/
theorem visit (h : element ∉ before → hunt.Sweeps False (element :: before)
      (fun met => hunt.Cuts element ∨ hunt.Closed met element) f) :
    hunt.Sweeps False before (element ∈ ·) (Walk.visit element f) := by
  intro walk begun sound
  by_cases seen : element ∈ walk.visited
  · rw [Walk.visit_of_mem seen]
    exact .none ⟨.refl _, sound⟩ seen
  · rw [Walk.visit_of_not_mem seen]
    -- the element counts as met while it is expanded, and is done only by what that has learned
    have entered : element :: before ⊆ element :: walk.visited := List.cons_subset_cons _ begun
    have ends := h (fun mem => seen (begun mem)) { walk with visited := element :: walk.visited }
      entered sound
    generalize f _ = left at ends
    cases ends with
    | found hit => exact .found hit
    | failed may => exact may.elim
    | none goes done =>
      have covers := goes.covers
      refine .none ⟨⟨fun other mem => covers.grows (.tail element mem), fun other mem => ?_⟩,
        goes.sound⟩ (covers.grows (.head _))
      rcases covers.done other mem with before | after
      · rcases List.mem_cons.1 before with rfl | before
        · exact .inr done
        · exact .inl before
      · exact .inr after

end Sweeps

/-- A step that asks questions: it sweeps, and fails only if some of them has no answer. -/
def Seeks (hunt : Hunt) (answered : Prop) (before : List Element) (learned : List Element → Prop)
    (f : Action (Walk Unit) (Option Unit)) : Prop :=
  hunt.Sweeps (¬ answered) before (fun met => answered → learned met) f

namespace Seeks

variable {answered : Prop} {before : List Element} {learned learned' : List Element → Prop}
  {f g : Action (Walk Unit) (Option Unit)}

theorem of_sweeps (h : hunt.Sweeps False before learned f)
    (hl : ∀ met, before ⊆ met → learned met → learned' met) :
    hunt.Seeks answered before learned' f :=
  h.imp False.elim fun met begun known _ => hl met begun known

theorem none (h : ∀ met, learned met) : hunt.Seeks answered before learned (pure .none) :=
  Sweeps.none fun met _ _ => h met

theorem imp (h : hunt.Seeks answered before learned f) (hl : ∀ met, learned met → learned' met) :
    hunt.Seeks answered before learned' f :=
  Sweeps.imp h id fun met _ known yes => hl met (known yes)

theorem orElse (h : hunt.Seeks answered before learned f) (lasting : Lasting learned)
    (h' : hunt.Seeks answered before learned' g) :
    hunt.Seeks answered before (fun met => learned met ∧ learned' met) (Walk.orElse f g) := by
  have lasts : Lasting fun met => answered → learned met :=
    fun met met' grows known yes => lasting met met' grows (known yes)
  refine (Sweeps.orElse h lasts h' fun no => ?_).imp id fun met _ all yes => ?_
  · exact ⟨no, fun _ _ yes => absurd yes no⟩
  · exact ⟨all.1 yes, all.2 yes⟩

theorem firstSome {α : Type} {items : List α} {step : α → Action (Walk Unit) (Option Unit)}
    {learned : α → List Element → Prop} (lasting : ∀ item, Lasting (learned item))
    (h : ∀ item ∈ items, hunt.Seeks answered before (learned item) (step item)) :
    hunt.Seeks answered before (fun met => ∀ item ∈ items, learned item met)
      (Walk.firstSome step items) := by
  have lasts (item : α) : Lasting fun met => answered → learned item met :=
    fun met met' grows known yes => lasting item met met' grows (known yes)
  refine (Sweeps.firstSome lasts (fun no _ _ _ _ yes => absurd yes no) h).imp id ?_
  exact fun met _ all yes item mem => all item mem yes

theorem asking {α : Type} {outcome : Except Error α} (harmless : Registry.Harmless outcome)
    {k : α → Action (Walk Unit) (Option Unit)} (answer : answered → ∃ a, outcome = .ok a)
    (h : ∀ a, outcome = .ok a → hunt.Seeks answered before learned (k a)) :
    hunt.Seeks answered before learned (liftM outcome >>= k) := by
  refine Sweeps.asking harmless (fun e failed => ?_) h
  have no (yes : answered) : False := by
    obtain ⟨a, known⟩ := answer yes
    cases failed.symm.trans known
  exact ⟨no, fun _ _ yes => (no yes).elim⟩

theorem askingInterface {name : String} {k : Bool → Action (Walk Unit) (Option Unit)}
    (answer : answered → ∃ annotated, hunt.search.reg.hasAnnotatedMethods name = .ok annotated)
    (h : ∀ annotated, hunt.search.reg.hasAnnotatedMethods name = .ok annotated →
      hunt.Seeks answered before learned (k annotated)) :
    hunt.Seeks answered before learned (hunt.search.hasAnnotatedMethods name >>= k) := by
  refine Sweeps.askingInterface (fun e failed => ?_) h
  have no (yes : answered) : False := by
    obtain ⟨a, known⟩ := answer yes
    cases failed.symm.trans known
  exact ⟨no, fun _ _ yes => (no yes).elim⟩

end Seeks

end Hunt
end Annotations
