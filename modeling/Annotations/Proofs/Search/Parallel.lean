import Annotations.Proofs.Search.Lookup

/-!
Two searches over one registry side by side. A relation between their steps that putting steps
together keeps, and that holds of what they do with annotations, holds of the whole searches.
-/
namespace Annotations

variable {σ τ ρ ρ' : Type}

/-- A relation between steps that holds where both find nothing, and of steps tried in turn if it holds
of each of them. -/
structure Walk.InTurn (J : Action (Walk σ) (Option ρ) → Action (Walk τ) (Option ρ') → Prop) :
    Prop where
  none : J (pure .none) (pure .none)
  orElse : ∀ {f f' : Action (Walk σ) (Option ρ)} {g g' : Action (Walk τ) (Option ρ')}, J f g →
    J f' g' → J (Walk.orElse f f') (Walk.orElse g g')

namespace Walk.InTurn

variable {J : Action (Walk σ) (Option ρ) → Action (Walk τ) (Option ρ') → Prop}

theorem firstSome {α : Type} (h : InTurn J) {items : List α}
    {step : α → Action (Walk σ) (Option ρ)} {step' : α → Action (Walk τ) (Option ρ')}
    (hs : ∀ item ∈ items, J (step item) (step' item)) :
    J (Walk.firstSome step items) (Walk.firstSome step' items) := by
  induction items with
  | nil => exact h.none
  | cons item rest ih =>
    have first := hs item (.head rest)
    have later := ih fun other mem => hs other (.tail item mem)
    exact h.orElse first later

/-- A property of single steps that goes over to steps tried in turn. -/
theorem firstSome_self {α : Type} {P : Action (Walk σ) (Option ρ) → Prop}
    (h : InTurn fun (f _ : Action (Walk σ) (Option ρ)) => P f) {items : List α}
    {step : α → Action (Walk σ) (Option ρ)} (hs : ∀ item ∈ items, P (step item)) :
    P (Walk.firstSome step items) :=
  @firstSome _ _ _ _ _ _ h items step step hs

/-- What two searches with the same candidates do with annotations is related, if what they do with
each of them, and then on each of their types, is. -/
theorem inAnnots (h : InTurn J) {search search' : Search} {target : String} {proc : Processor σ ρ}
    {proc' : Processor τ ρ'} {descend : Search.Descend σ ρ} {descend' : Search.Descend τ ρ'}
    {element : Element} {depth : Nat} {annots : List Annot}
    (same : search'.candidates annots = search.candidates annots)
    (offered : ∀ annot ∈ search.candidates annots,
      J (Search.offer target proc element depth annot) (Search.offer target proc' element depth annot))
    (above : ∀ annot ∈ search.candidates annots,
      J (Search.ascend proc descend element depth annot)
        (Search.ascend proc' descend' element depth annot)) :
    J (search.inAnnots target proc descend element depth annots)
      (search'.inAnnots target proc' descend' element depth annots) := by
  rw [Search.inAnnots, Search.inAnnots, same]
  exact h.orElse (h.firstSome offered) (h.firstSome above)

end Walk.InTurn

namespace Search

/-- An annotation that a search can look at on an element. -/
structure Bears (search : Search) (kind : SearchKind) (element : Element) (annot : Annot) :
    Prop where
  there : (∃ annots, search.reg.declaredAnnots element = .ok annots ∧ annot ∈ annots) ∨
    ∃ name annots, kind = .get ∧ element = .classLike name ∧
      search.reg.inheritedAnnots name = .ok annots ∧ annot ∈ annots
  plain : search.settings.isBuiltin annot.type = false

theorem bears_declared {search : Search} {kind : SearchKind} {element : Element}
    {annots : List Annot} (known : search.reg.declaredAnnots element = .ok annots) {annot : Annot}
    (mem : annot ∈ search.candidates annots) : search.Bears kind element annot := by
  obtain ⟨mem, plain⟩ := List.mem_filter.1 mem
  exact ⟨.inl ⟨annots, known, mem⟩, by simpa using plain⟩

theorem bears_inherited {search : Search} {name : String} {annots : List Annot}
    (known : search.reg.inheritedAnnots name = .ok annots) {annot : Annot}
    (mem : annot ∈ search.candidates annots) : search.Bears .get (.classLike name) annot := by
  obtain ⟨mem, plain⟩ := List.mem_filter.1 mem
  exact ⟨.inr ⟨name, annots, rfl, rfl, known, mem⟩, by simpa using plain⟩

/-- The same search with answers about interfaces kept or not. -/
def caching (search : Search) (keep : Bool) : Search :=
  { search with settings := { search.settings with cacheEnabled := keep } }

/-- A relation between the steps of two searches at an element that holds where both find nothing,
where both ask the registry and go on alike, and of steps put together from steps it holds of. -/
structure Parallel (search : Search) (keep keep' : Bool)
    (J : Element → Action (Walk σ) (Option ρ) → Action (Walk τ) (Option ρ') → Prop) : Prop where
  inTurn : ∀ element, Walk.InTurn (J element)
  asking : ∀ {α : Type} {outcome : Except Error α} {element : Element}
    {k : α → Action (Walk σ) (Option ρ)} {l : α → Action (Walk τ) (Option ρ')},
    Registry.Harmless outcome → (∀ a, outcome = .ok a → J element (k a) (l a)) →
    J element (liftM outcome >>= k) (liftM outcome >>= l)
  askingInterface : ∀ {element : Element} {k : Bool → Action (Walk σ) (Option ρ)}
    {l : Bool → Action (Walk τ) (Option ρ')} (name : String),
    (∀ annotated, J element (k annotated) (l annotated)) →
    J element ((search.caching keep).hasAnnotatedMethods name >>= k)
      ((search.caching keep').hasAnnotatedMethods name >>= l)
  enter : ∀ {element : Element} {f : Action (Walk σ) (Option ρ)}
    {g : Action (Walk τ) (Option ρ')}, J element f g →
    J element (Walk.visit element (Walk.recover element f))
      (Walk.visit element (Walk.recover element g))
  move : ∀ {element there : Element} {f : Action (Walk σ) (Option ρ)}
    {g : Action (Walk τ) (Option ρ')}, element.isAnnotType = false → J there f g → J element f g

namespace Parallel

variable {search : Search} {keep keep' : Bool}
  {J : Element → Action (Walk σ) (Option ρ) → Action (Walk τ) (Option ρ') → Prop}
  {descend : Descend σ ρ} {descend' : Descend τ ρ'} {element : Element}

section

variable (h : search.Parallel keep keep' J)
  (hd : ∀ element depth, J element (descend element depth) (descend' element depth))

include h hd

theorem onInterfaces (plain : element.isAnnotType = false) (ref : MethodRef) (depth : Nat)
    (interfaces : List String) :
    J element ((search.caching keep).onInterfaces descend ref depth interfaces)
      ((search.caching keep').onInterfaces descend' ref depth interfaces) := by
  refine (h.inTurn element).firstSome fun name _ => h.askingInterface name fun annotated => ?_
  cases annotated with
  | false => exact (h.inTurn element).none
  | true =>
    refine h.asking (search.reg.findInterfaceMethod_harmless _ _ _) fun equivalent _ => ?_
    cases equivalent with
    | none => exact (h.inTurn element).none
    | some equivalent => exact h.move plain (hd (.method equivalent) depth)

theorem onSuperclass (plain : element.isAnnotType = false) (ref : MethodRef) (depth : Nat)
    (name : String) :
    J element ((search.caching keep).onSuperclass descend ref depth name)
      ((search.caching keep').onSuperclass descend' ref depth name) := by
  refine h.asking (search.reg.classDecl_harmless name) fun decl _ => ?_
  refine (h.inTurn element).orElse ?_ (h.onInterfaces hd plain ref depth _)
  split
  · refine h.asking (search.reg.resolveBridge_harmless _) fun overridden _ => ?_
    exact h.move plain (hd (.method overridden) depth)
  · exact (h.inTurn element).none

theorem onMethod (plain : element.isAnnotType = false) (ref : MethodRef) (depth : Nat) :
    J element ((search.caching keep).onMethod descend ref depth)
      ((search.caching keep').onMethod descend' ref depth) := by
  refine h.asking (search.reg.resolveBridge_harmless ref) fun bridged _ => ?_
  refine (h.inTurn element).orElse (h.move plain (hd (.method bridged) depth)) ?_
  refine h.asking (search.reg.classDecl_harmless _) fun decl _ => ?_
  refine (h.inTurn element).orElse (h.onInterfaces hd plain ref depth _) ?_
  exact (h.inTurn element).firstSome fun name _ => h.onSuperclass hd plain ref depth name

theorem onClass (plain : element.isAnnotType = false) (name : String) (depth : Nat) :
    J element ((search.caching keep).onClass descend name depth)
      ((search.caching keep').onClass descend' name depth) := by
  refine h.asking (search.reg.classDecl_harmless name) fun decl _ => ?_
  exact (h.inTurn element).firstSome fun above _ => h.move plain (hd (.classLike above) depth)

end

variable {kind : SearchKind} {target : String} {proc : Processor σ ρ} {proc' : Processor τ ρ'}

/-- What both searches do with annotations of an element that they can look at is related, if what
they do at other elements is. -/
def Annotating (search : Search) (keep keep' : Bool) (kind : SearchKind) (target : String)
    (J : Element → Action (Walk σ) (Option ρ) → Action (Walk τ) (Option ρ') → Prop)
    (proc : Processor σ ρ) (proc' : Processor τ ρ') : Prop :=
  ∀ (descend : Descend σ ρ) (descend' : Descend τ ρ'),
    (∀ element depth, J element (descend element depth) (descend' element depth)) →
    ∀ element depth annots, (∀ annot ∈ search.candidates annots, search.Bears kind element annot) →
      J element ((search.caching keep).inAnnots target proc descend element depth annots)
        ((search.caching keep').inAnnots target proc' descend' element depth annots)

variable (h : search.Parallel keep keep' J)
  (ha : Annotating search keep keep' kind target J proc proc')

include h ha

theorem beyond (hd : ∀ element depth, J element (descend element depth) (descend' element depth))
    (element : Element) (depth : Nat) :
    J element ((search.caching keep).beyond kind target proc descend element depth)
      ((search.caching keep').beyond kind target proc' descend' element depth) := by
  unfold Search.beyond
  split
  · rename_i name
    refine h.asking (search.reg.inheritedAnnots_harmless name) fun annots known => ?_
    have known : search.reg.inheritedAnnots name = .ok annots := known
    have bears (annot : Annot) (mem : annot ∈ search.candidates annots) :
        search.Bears .get (.classLike name) annot := bears_inherited known mem
    exact ha _ _ hd (.classLike name) depth annots bears
  · exact h.onClass hd rfl _ depth
  · exact h.onMethod hd rfl _ depth
  · exact (h.inTurn element).none

theorem expand (hd : ∀ element depth, J element (descend element depth) (descend' element depth))
    (element : Element) (depth : Nat) :
    J element ((search.caching keep).expand kind target proc descend element depth)
      ((search.caching keep').expand kind target proc' descend' element depth) := by
  refine h.asking (search.checkDepth_harmless element depth) fun _ _ => ?_
  refine h.asking (search.reg.declaredAnnots_harmless element) fun annots known => ?_
  have known : search.reg.declaredAnnots element = .ok annots := known
  have bears (annot : Annot) (mem : annot ∈ search.candidates annots) :
      search.Bears kind element annot := bears_declared known mem
  exact (h.inTurn element).orElse (ha _ _ hd element depth annots bears) (h.beyond ha hd element depth)

/-- One step is related if the steps below are, so whole searches are. -/
theorem searchElement (fuel : Nat) (element : Element) (depth : Nat) :
    J element ((search.caching keep).searchElement kind target proc fuel element depth)
      ((search.caching keep').searchElement kind target proc' fuel element depth) := by
  induction fuel generalizing element depth with
  | zero => exact (h.inTurn element).none
  | succ fuel ih => exact h.enter (h.expand ha ih element depth)

end Parallel
end Search
end Annotations
