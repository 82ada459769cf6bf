import Annotations.Proofs.Search.Sweep

/-!
Whole searches for presence. Each step sweeps, so a search that finds nothing has met all that its ways
lead to, but for what is cut off by the depth limit.
-/
namespace Annotations

open Annotations.Action

/-- What a search for presence finds on the type of an annotation it does not change. -/
theorem Search.ascend_presence (target : String) (descend : Descend Unit Unit) (element : Element)
    (depth : Nat) (annot : Annot) :
    ascend (presence target) descend element depth annot =
      descend (.annotType annot.type) (depth + 1) := by
  funext walk
  simp only [ascend, bind_apply]
  generalize descend _ _ walk = ends
  rcases ends with ⟨_ | _ | _, after⟩ <;> rfl

namespace Hunt

variable {hunt : Hunt} {met : List Element} {element : Element}

/-- No annotation of the type among some that the search looks at, and all of their types are met. -/
def Passed (hunt : Hunt) (annots : List Annot) (met : List Element) : Prop :=
  ∀ annot ∈ hunt.search.candidates annots,
    annot.type ≠ hunt.target ∧ .annotType annot.type ∈ met

/-- Beyond the declared annotations of an element there is nothing either. -/
structure PassedBeyond (hunt : Hunt) (element : Element) (met : List Element) : Prop where
  inherited : ∀ name annots, hunt.kind = .get → element = .classLike name →
    hunt.search.reg.inheritedAnnots name = .ok annots → hunt.Passed annots met
  above : ∀ name above, hunt.kind = .find → element = .classLike name →
    above ∈ hunt.search.reg.hierarchy.next name → .classLike above ∈ met
  beside : ∀ ref there, hunt.kind = .find → element = .method ref →
    hunt.search.reg.Unhindered ref → hunt.search.reg.Leads ref there → .method there ∈ met

theorem PassedBeyond.of_inherited {name : String} (get : hunt.kind = .get)
    (h : ∀ annots, hunt.search.reg.inheritedAnnots name = .ok annots → hunt.Passed annots met) :
    hunt.PassedBeyond (.classLike name) met where
  inherited _ annots _ same known := by
    cases same
    exact h annots known
  above _ _ find := by cases get.symm.trans find
  beside _ _ find := by cases get.symm.trans find

theorem PassedBeyond.of_above {name : String} (find : hunt.kind = .find)
    (h : ∀ above ∈ hunt.search.reg.hierarchy.next name, .classLike above ∈ met) :
    hunt.PassedBeyond (.classLike name) met where
  inherited _ _ get := by cases find.symm.trans get
  above _ above _ same mem := by
    cases same
    exact h above mem
  beside _ _ _ same := by cases same

theorem PassedBeyond.of_beside {ref : MethodRef} (find : hunt.kind = .find)
    (h : hunt.search.reg.Unhindered ref → ∀ there, hunt.search.reg.Leads ref there →
      .method there ∈ met) : hunt.PassedBeyond (.method ref) met where
  inherited _ _ get := by cases find.symm.trans get
  above _ _ _ same := by cases same
  beside _ there _ same answers leads := by
    cases same
    exact h answers there leads

theorem Closed.of_passed {annots : List Annot}
    (known : hunt.search.reg.declaredAnnots element = .ok annots) (passed : hunt.Passed annots met)
    (beyond : hunt.PassedBeyond element met) : hunt.Closed met element := by
  have all : ∀ annot, hunt.search.Bears hunt.kind element annot →
      annot.type ≠ hunt.target ∧ .annotType annot.type ∈ met := by
    intro annot bears
    have plain : (!hunt.search.settings.isBuiltin annot.type) = true := by simp [bears.plain]
    rcases bears.there with ⟨annots', known', mem⟩ | ⟨name, annots', get, same, known', mem⟩
    · cases known.symm.trans known'
      exact passed annot (List.mem_filter.2 ⟨mem, plain⟩)
    · exact beyond.inherited name annots' get same known' annot (List.mem_filter.2 ⟨mem, plain⟩)
  exact ⟨fun annot bears => (all annot bears).1, fun annot bears => (all annot bears).2,
    beyond.above, beyond.beside⟩

/-- A search goes on from nothing that has no declared annotations. -/
theorem Closed.of_unknown {e : Error} (unknown : hunt.search.reg.declaredAnnots element = .error e) :
    hunt.Closed met element := by
  have nowhere {there : Element} {cost : Nat}
      (step : hunt.search.Next hunt.kind element there cost) : False := by
    obtain ⟨annots, known⟩ := step.declared
    cases unknown.symm.trans known
  constructor
  · exact fun annot bears => (nowhere (.up bears)).elim
  · exact fun annot bears => (nowhere (.up bears)).elim
  · rintro name above find rfl mem
    exact (nowhere (.across find mem)).elim
  · rintro ref there find rfl answers leads
    obtain ⟨_, bridge⟩ := answers.bridge
    obtain ⟨decl, declared, _⟩ := Outcome.bind_ok bridge
    exact (nowhere (.aside find declared leads)).elim

section

variable {before : List Element} {depth : Nat} {descend : Search.Descend Unit Unit}
  {annots : List Annot} (route : hunt.search.Route hunt.kind hunt.root element before depth)
  (hd : ∀ there cost, hunt.search.Next hunt.kind element there cost →
    hunt.Sweeps False (element :: before) (there ∈ ·) (descend there (depth + cost)))

include route

theorem offer_sweeps (within : depth ≤ hunt.search.settings.maxMetaDepth) {annot : Annot}
    (bears : hunt.search.Bears hunt.kind element annot) :
    hunt.Sweeps False (element :: before) (fun _ => annot.type ≠ hunt.target)
      (Search.offer hunt.target (presence hunt.target) element depth annot) := by
  by_cases own : annot.type = hunt.target
  · intro walk _ _
    have found : Search.offer hunt.target (presence hunt.target) element depth annot walk =
        (.ok (some ()), walk) := by
      simp [Search.offer, presence, own, Walk.onState]
    rw [found]
    exact .found ⟨element, before, depth, annot, route, within, bears, own⟩
  · have passed : Search.offer hunt.target (presence hunt.target) element depth annot =
        pure none := by
      simp only [Search.offer, presence, beq_iff_eq, own, if_false]
      split <;> rfl
    rw [passed]
    exact .none fun _ _ => own

include hd

theorem inAnnots_sweeps (within : depth ≤ hunt.search.settings.maxMetaDepth)
    (bears : ∀ annot ∈ hunt.search.candidates annots, hunt.search.Bears hunt.kind element annot) :
    hunt.Sweeps False (element :: before) (hunt.Passed annots)
      (hunt.search.inAnnots hunt.target (presence hunt.target) descend element depth annots) := by
  have bare : hunt.Sweeps False (element :: before)
      (fun _ => ∀ annot ∈ hunt.search.candidates annots, annot.type ≠ hunt.target)
      (Walk.firstSome (Search.offer hunt.target (presence hunt.target) element depth)
        (hunt.search.candidates annots)) :=
    .firstSome (fun _ _ _ _ other => other) False.elim fun annot mem =>
      offer_sweeps route within (bears annot mem)
  have above : hunt.Sweeps False (element :: before)
      (fun met => ∀ annot ∈ hunt.search.candidates annots, .annotType annot.type ∈ met)
      (Walk.firstSome (Search.ascend (presence hunt.target) descend element depth)
        (hunt.search.candidates annots)) := by
    refine .firstSome (fun _ _ _ grows mem => grows mem) False.elim fun annot mem => ?_
    rw [Search.ascend_presence]
    exact hd _ _ (.up (bears annot mem))
  refine (bare.orElse (fun _ _ _ other => other) above False.elim).imp id
    fun met _ known annot mem => ?_
  exact ⟨known.1 annot mem, known.2 annot mem⟩

end

section

variable {before : List Element} {depth : Nat} {descend : Search.Descend Unit Unit}
  {ref : MethodRef} {decl : MethodDecl} {above : String} {owner : ClassDecl}

/-- What a method leads to on some interfaces is met. -/
def MeetsOn (hunt : Hunt) (ref : MethodRef) (interfaces : List String) (met : List Element) : Prop :=
  ∀ interface ∈ interfaces, ∀ there, hunt.search.reg.Implements ref interface there →
    .method there ∈ met

/-- What a method leads to on a superclass and on the interfaces there is met. -/
structure MeetsAbove (hunt : Hunt) (ref : MethodRef) (above : String) (met : List Element) : Prop where
  overridden : ∀ there, hunt.search.reg.resolveBridge (ref.onClass above) = .ok there →
    .method there ∈ met
  interfaces : ∀ owner, hunt.search.reg.classDecl above = .ok owner →
    hunt.MeetsOn ref owner.interfaces met

theorem meetsOn_lasting (hunt : Hunt) (ref : MethodRef) (interfaces : List String) :
    Lasting (hunt.MeetsOn ref interfaces) :=
  fun _ _ grows known interface mem there implements => grows (known interface mem there implements)

theorem meetsAbove_lasting (hunt : Hunt) (ref : MethodRef) (above : String) :
    Lasting (hunt.MeetsAbove ref above) :=
  fun met met' grows known => ⟨fun there bridge => grows (known.overridden there bridge),
    fun owner own => hunt.meetsOn_lasting ref owner.interfaces met met' grows (known.interfaces owner own)⟩

variable (declared : hunt.search.reg.method ref = .ok decl)
  (hd : ∀ there, hunt.search.reg.Leads ref there →
    hunt.Sweeps False before (.method there ∈ ·) (descend (.method there) depth))

include hd

theorem onInterfaces_seeks (inside : above ∈ hunt.search.reg.lineage ref.owner)
    (known : hunt.search.reg.classDecl above = .ok owner) :
    hunt.Seeks (hunt.search.reg.Unhindered ref) before (hunt.MeetsOn ref owner.interfaces)
      (hunt.search.onInterfaces descend ref depth owner.interfaces) := by
  refine .firstSome (fun _ _ _ grows met there implements => grows (met there implements))
    fun interface mem => ?_
  refine .askingInterface (fun answers => answers.annotated above inside owner known interface mem)
    fun annotated asked => ?_
  cases annotated with
  | false =>
    refine .none fun met there implements => ?_
    cases asked.symm.trans implements.annotated
  | true =>
    refine .asking (hunt.search.reg.findInterfaceMethod_harmless _ _ _)
      (fun answers => answers.equivalent above inside owner known interface mem) fun found looked => ?_
    have looked : hunt.search.reg.findInterfaceMethod interface ref.name ref.parameters = .ok found :=
      looked
    cases found with
    | none =>
      refine .none fun met there implements => ?_
      cases looked.symm.trans implements.found
    | some equivalent =>
      have leads := Registry.Leads.implemented inside known mem ⟨asked, looked⟩
      refine .of_sweeps (hd equivalent leads) fun met _ there other implements => ?_
      cases looked.symm.trans implements.found
      exact there

theorem onSuperclass_seeks (mem : above ∈ hunt.search.reg.superclasses ref.owner) :
    hunt.Seeks (hunt.search.reg.Unhindered ref) before (hunt.MeetsAbove ref above)
      (hunt.search.onSuperclass descend ref depth above) := by
  have inside : above ∈ hunt.search.reg.lineage ref.owner := .tail _ mem
  refine .asking (hunt.search.reg.classDecl_harmless above)
    (fun answers => answers.lineage above inside) fun owner known => ?_
  have known : hunt.search.reg.classDecl above = .ok owner := known
  have overridden : hunt.Seeks (hunt.search.reg.Unhindered ref) before
      (fun met => ∀ there, hunt.search.reg.resolveBridge (ref.onClass above) = .ok there →
        .method there ∈ met)
      (if (owner.method? ref.name ref.parameters).isSome then do
        let overridden ← hunt.search.reg.resolveBridge (ref.onClass above)
        descend (.method overridden) depth
      else return none) := by
    split
    · rename_i redeclares
      obtain ⟨target, redeclares⟩ := Option.isSome_iff_exists.1 redeclares
      have redeclared : hunt.search.reg.method (ref.onClass above) = .ok target :=
        Registry.method_eq_ok_iff.2 ⟨owner, known, redeclares⟩
      refine .asking (hunt.search.reg.resolveBridge_harmless _)
        (fun answers => answers.overridden above mem target redeclared) fun there bridge => ?_
      refine .of_sweeps (hd there (.overridden mem bridge)) fun met _ there other same => ?_
      cases bridge.symm.trans same
      exact there
    · rename_i absent
      refine .none fun met there bridge => ?_
      obtain ⟨target, redeclared, _⟩ := Outcome.bind_ok bridge
      obtain ⟨owner', known', redeclares⟩ := Registry.method_eq_ok_iff.1 redeclared
      cases known.symm.trans known'
      exact absurd (Option.isSome_iff_exists.2 ⟨target, redeclares⟩) absent
  refine (overridden.orElse (fun _ _ grows met there bridge => grows (met there bridge))
    (onInterfaces_seeks hd inside known)).imp fun met all => ⟨all.1, fun owner' known' => ?_⟩
  cases known.symm.trans known'
  exact all.2

include declared

/-- From a declared method on a search finds something or meets the methods that it leads to, if all
questions about it have answers. -/
theorem onMethod_seeks :
    hunt.Seeks (hunt.search.reg.Unhindered ref) before
      (fun met => ∀ there, hunt.search.reg.Leads ref there → .method there ∈ met)
      (hunt.search.onMethod descend ref depth) := by
  obtain ⟨owner, known, _⟩ := Registry.method_eq_ok_iff.1 declared
  refine .asking (hunt.search.reg.resolveBridge_harmless ref) (fun answers => answers.bridge)
    fun bridged bridge => ?_
  have bridge : hunt.search.reg.resolveBridge ref = .ok bridged := bridge
  have first : hunt.Seeks (hunt.search.reg.Unhindered ref) before (.method bridged ∈ ·)
      (descend (.method bridged) depth) := .of_sweeps (hd bridged (.bridged bridge)) fun _ _ => id
  have superclasses : hunt.Seeks (hunt.search.reg.Unhindered ref) before
      (fun met => ∀ above ∈ hunt.search.reg.superclasses ref.owner, hunt.MeetsAbove ref above met)
      (Walk.firstSome (hunt.search.onSuperclass descend ref depth)
        (hunt.search.reg.superclasses ref.owner)) :=
    .firstSome (hunt.meetsAbove_lasting ref) fun above mem => onSuperclass_seeks hd mem
  have later := (onInterfaces_seeks hd (.head _) known).orElse (hunt.meetsOn_lasting ref _)
    superclasses
  have rest : hunt.Seeks (hunt.search.reg.Unhindered ref) before
      (fun met => hunt.MeetsOn ref owner.interfaces met ∧
        ∀ above ∈ hunt.search.reg.superclasses ref.owner, hunt.MeetsAbove ref above met)
      (do
        let owner ← hunt.search.reg.classDecl ref.owner
        Walk.orElse (hunt.search.onInterfaces descend ref depth owner.interfaces)
          (Walk.firstSome (hunt.search.onSuperclass descend ref depth)
            (hunt.search.reg.superclasses ref.owner))) := by
    refine .asking (hunt.search.reg.classDecl_harmless _) (fun _ => ⟨owner, known⟩)
      fun owner' known' => ?_
    cases known.symm.trans known'
    exact later
  refine (first.orElse (fun _ _ grows met => grows met) rest).imp fun met all there leads => ?_
  obtain ⟨beside, inInterfaces, inSuperclasses⟩ := all
  cases leads with
  | bridged bridge' =>
    cases bridge.symm.trans bridge'
    exact beside
  | @implemented above interface decl _ inside known' mem implements =>
    rcases List.mem_cons.1 inside with rfl | inside
    · cases known.symm.trans known'
      exact inInterfaces interface mem there implements
    · exact (inSuperclasses above inside).interfaces decl known' interface mem there implements
  | @overridden above _ inside bridge' => exact (inSuperclasses above inside).overridden there bridge'

end

section

variable {before : List Element} {depth : Nat} {descend : Search.Descend Unit Unit}
  {annots : List Annot} (route : hunt.search.Route hunt.kind hunt.root element before depth)
  (hd : ∀ there cost, hunt.search.Next hunt.kind element there cost →
    hunt.Sweeps False (element :: before) (there ∈ ·) (descend there (depth + cost)))

include route hd

theorem beyond_sweeps (within : depth ≤ hunt.search.settings.maxMetaDepth) {known : List Annot}
    (declared : hunt.search.reg.declaredAnnots element = .ok known) :
    hunt.Sweeps True (element :: before) (hunt.PassedBeyond element)
      (hunt.search.beyond hunt.kind hunt.target (presence hunt.target) descend element depth) := by
  unfold Search.beyond
  split
  · rename_i name get
    refine .asking (hunt.search.reg.inheritedAnnots_harmless name) ?_ fun annots known => ?_
    · intro e unknown
      refine ⟨trivial, fun met _ => .of_inherited get fun annots known => ?_⟩
      cases unknown.symm.trans known
    have known : hunt.search.reg.inheritedAnnots name = .ok annots := known
    have bears : ∀ annot ∈ hunt.search.candidates annots,
        hunt.search.Bears hunt.kind (.classLike name) annot := by
      intro annot mem
      rw [get]
      exact Search.bears_inherited known mem
    refine (inAnnots_sweeps route hd within bears).imp False.elim fun met _ passed => ?_
    refine .of_inherited get fun annots' known' => ?_
    cases known.symm.trans known'
    exact passed
  · rename_i name find
    refine .asking (hunt.search.reg.classDecl_harmless name) ?_ fun decl known => ?_
    · intro e unknown
      refine ⟨trivial, fun met _ => .of_above find fun above mem => ?_⟩
      rw [Registry.hierarchy_next, unknown] at mem
      cases mem
    have known : hunt.search.reg.classDecl name = .ok decl := known
    have named : hunt.search.reg.hierarchy.next name =
        decl.interfaces ++ decl.superclass.toList := by
      rw [Registry.hierarchy_next, known]
    rw [← named]
    have steps : hunt.Sweeps False (.classLike name :: before)
        (fun met => ∀ above ∈ hunt.search.reg.hierarchy.next name, .classLike above ∈ met)
        (Walk.firstSome (fun above => descend (.classLike above) depth)
          (hunt.search.reg.hierarchy.next name)) := by
      refine .firstSome (fun _ _ _ grows mem => grows mem) False.elim fun above mem => ?_
      exact hd (.classLike above) 0 (.across find mem)
    exact steps.imp False.elim fun met _ all => .of_above find all
  · rename_i ref find
    obtain ⟨decl, method, _⟩ := Outcome.bind_ok declared
    have beside := onMethod_seeks method fun there leads => hd (.method there) 0 (.aside find method leads)
    exact Sweeps.imp beside (fun _ => trivial) fun met _ all => .of_beside find all
  · rename_i _ _ noInherited noAbove noBeside
    refine .none fun met _ => ⟨fun name _ get same => ?_, fun name _ find same => ?_,
      fun ref _ find same => ?_⟩
    · exact (noInherited name get same).elim
    · exact (noAbove name find same).elim
    · exact (noBeside ref find same).elim

/-- Where an element is expanded, it is cut off by the depth limit or closed, if nothing is found. -/
theorem expand_sweeps :
    hunt.Sweeps True (element :: before)
      (fun met => hunt.Cuts element ∨ hunt.Closed met element)
      (hunt.search.expand hunt.kind hunt.target (presence hunt.target) descend element depth) := by
  refine .asking (hunt.search.checkDepth_harmless element depth) (fun e deep => ?_) ?_
  · refine ⟨trivial, fun met _ => .inl ⟨before, depth, route, ?_⟩⟩
    by_contra within
    simp [Search.checkDepth, within] at deep
  intro _ within
  have within : depth ≤ hunt.search.settings.maxMetaDepth := by
    by_contra deep
    simp [Search.checkDepth, deep] at within
  refine .asking (hunt.search.reg.declaredAnnots_harmless element) ?_ fun annots known => ?_
  · exact fun e unknown => ⟨trivial, fun met _ => .inr (.of_unknown unknown)⟩
  have known : hunt.search.reg.declaredAnnots element = .ok annots := known
  have declared := inAnnots_sweeps route hd within fun annot mem =>
    Search.bears_declared known mem
  have lasting : Lasting (hunt.Passed annots) := fun met met' grows passed annot mem =>
    ⟨(passed annot mem).1, grows (passed annot mem).2⟩
  have beyond := beyond_sweeps route hd within known
  refine (declared.orElse lasting beyond False.elim).imp id fun met _ done => ?_
  exact .inr (.of_passed known done.1 done.2)

end

/-- A step of the search at an element finds something or the element is met. -/
theorem searchElement_sweeps (fuel : Nat) {before : List Element} {depth : Nat}
    (route : element ∉ before → hunt.search.Route hunt.kind hunt.root element before depth)
    (enough : hunt.search.fuel ≤ fuel + before.length) :
    hunt.Sweeps False before (element ∈ ·)
      (hunt.search.searchElement hunt.kind hunt.target (presence hunt.target) fuel element
        depth) := by
  -- the elements being expanded are those before this one on a way, so fuel never runs out
  induction fuel generalizing element before depth with
  | zero =>
    refine .none fun met begun => begun ?_
    by_contra fresh
    have fueled := (route fresh).length_lt_fuel
    omega
  | succ fuel ih =>
    refine .visit fun fresh => .recover (expand_sweeps (route fresh) fun there cost step => ?_)
    refine ih (fun fresh' => (route fresh).next step fresh') ?_
    rw [List.length_cons]
    omega

/-- What is left when a search found nothing. -/
structure Exhausted (hunt : Hunt) (met : List Element) : Prop where
  root : hunt.root ∈ met
  done : ∀ element ∈ met, hunt.Cuts element ∨ hunt.Closed met element

/-- A search for presence finds something where one of its ways leads to it, or has met all that its
ways lead to within the depth limit. -/
theorem searchFrom_sweeps {walk : Walk Unit}
    (sound : hunt.search.reg.InterfacesSound walk.interfaces) :
    (hunt.Hits ∧ (hunt.search.searchFrom hunt.kind hunt.target (presence hunt.target) hunt.root 0
        walk).1 = .ok (some ())) ∨
      (∃ met, hunt.Exhausted met) ∧ (hunt.search.searchFrom hunt.kind hunt.target
        (presence hunt.target) hunt.root 0 walk).1 = .ok none := by
  have ends := searchElement_sweeps hunt.search.fuel (fun _ => .start) (by simp)
    { walk with visited := [] } (List.nil_subset _) sound
  change hunt.Swept False _ [] (hunt.search.searchFrom hunt.kind hunt.target
    (presence hunt.target) hunt.root 0 walk) at ends
  generalize hunt.search.searchFrom _ _ _ _ _ _ = left at ends ⊢
  cases ends with
  | found hit => exact .inl ⟨hit, rfl⟩
  | failed may => exact may.elim
  | none goes root =>
    refine .inr ⟨⟨_, root, fun element mem => ?_⟩, rfl⟩
    exact (goes.covers.done element mem).resolve_left (by simp)

end Hunt
end Annotations
