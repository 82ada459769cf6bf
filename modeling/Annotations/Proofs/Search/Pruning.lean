import Annotations.Proofs.Search.Abreast

/-!
A search beside the same search over the pruned registry. Classes that are not registered are met in
vain, so as long as none of them stands where a failure abandons more than itself, both find the same.
-/
namespace Annotations

open Annotations.Action

variable {σ ρ : Type}

namespace Search

variable {search : Search} {element : Element}

/-- From missing classes nothing is found, and they make no difference to how a walk stands beside
another. -/
def Vain (reg : Registry) (descend : Descend σ ρ) : Prop :=
  ∀ element, reg.missing element = true → ∀ depth walk walk', Walk.Beside reg walk walk' →
    ∃ after, descend element depth walk = (.ok none, after) ∧ Walk.Beside reg after walk'

section

variable (kind : SearchKind) (target : String) (proc : Processor σ ρ)

/-- Nothing is searched on an element without declared annotations. -/
theorem expand_unknown {e : Error} (unknown : search.reg.declaredAnnots element = .error e)
    (descend : Descend σ ρ) (depth : Nat) (walk : Walk σ) :
    ∃ e', e'.isConfiguration = false ∧
      search.expand kind target proc descend element depth walk = (.error e', walk) := by
  unfold expand
  rw [bind_apply, lift_apply]
  cases deep : search.checkDepth element depth with
  | error e' => exact ⟨e', search.checkDepth_harmless element depth e' deep, rfl⟩
  | ok _ =>
    refine ⟨e, search.reg.declaredAnnots_harmless element e unknown, ?_⟩
    simp only [bind_apply, lift_apply, unknown]

/-- An element without declared annotations is met in vain. -/
theorem searchElement_unknown {e : Error} (unknown : search.reg.declaredAnnots element = .error e)
    (fuel depth : Nat) (walk : Walk σ) :
    ∃ walk', search.searchElement kind target proc fuel element depth walk = (.ok none, walk') ∧
      (walk'.visited = walk.visited ∨ walk'.visited = element :: walk.visited) ∧
      walk'.interfaces = walk.interfaces ∧ walk'.state = walk.state := by
  cases fuel with
  | zero => exact ⟨walk, rfl, .inl rfl, rfl, rfl⟩
  | succ fuel =>
    simp only [searchElement, Walk.visit]
    split
    · exact ⟨walk, rfl, .inl rfl, rfl, rfl⟩
    · obtain ⟨e', harmless, ends⟩ := expand_unknown kind target proc unknown
        (search.searchElement kind target proc fuel) depth
        { walk with visited := element :: walk.visited }
      simp only [Walk.recover, ends, harmless, Bool.false_eq_true, if_false]
      exact ⟨_, rfl, .inr rfl, rfl, rfl⟩

theorem declaredAnnots_missing {reg : Registry} (missing : reg.missing element = true) :
    ∃ e, reg.declaredAnnots element = .error e := by
  cases element with
  | classLike name =>
    have unknown := reg.classDecl_of_not_hasClass (by simpa [Registry.missing] using missing)
    refine ⟨.unknownClass name, ?_⟩
    simp only [Registry.declaredAnnots, unknown]
    rfl
  | method ref => cases missing
  | annotType name => cases missing

theorem mem_visited_missing {reg : Registry} (missing : reg.missing element = true)
    {met met' : List Element} (more : met' = met ∨ met' = element :: met) (other : Element)
    (plain : reg.missing other = false) : other ∈ met' ↔ other ∈ met := by
  rcases more with rfl | rfl
  · exact Iff.rfl
  · have other_ne : other ≠ element := by
      rintro rfl
      cases missing.symm.trans plain
    rw [List.mem_cons, or_iff_right other_ne]

/-- A missing class is met in vain, beside a walk that meets it or does not. -/
theorem searchElement_vain (fuel : Nat) :
    Vain search.reg (search.searchElement kind target proc fuel) := by
  intro element missing depth walk walk' beside
  obtain ⟨e, unknown⟩ := declaredAnnots_missing missing
  obtain ⟨after, ends, visited, interfaces, state⟩ :=
    searchElement_unknown kind target proc unknown fuel depth walk
  refine ⟨after, ends, fun other plain => ?_, interfaces ▸ beside.interfaces, beside.interfaces',
    state.trans beside.state⟩
  rw [mem_visited_missing missing visited other plain]
  exact beside.visited other plain

/-- So it is over the pruned registry. -/
theorem pruned_searchElement_vain (fuel : Nat) {element : Element}
    (missing : search.reg.missing element = true) (depth : Nat) {walk walk' : Walk σ}
    (beside : Walk.Beside search.reg walk walk') :
    ∃ after', search.pruned.searchElement kind target proc fuel element depth walk' =
        (.ok none, after') ∧ Walk.Beside search.reg walk after' := by
  obtain ⟨e, unknown⟩ := declaredAnnots_missing missing
  have unknown' : search.pruned.reg.declaredAnnots element = .error e :=
    (search.reg.pruned_declaredAnnots element).trans unknown
  obtain ⟨after', ends, visited, interfaces, state⟩ :=
    searchElement_unknown kind target proc unknown' fuel depth walk'
  refine ⟨after', ends, fun other plain => ?_, beside.interfaces, interfaces ▸ beside.interfaces',
    beside.state.trans state.symm⟩
  rw [mem_visited_missing missing visited other plain]
  exact beside.visited other plain

end

/-- Where nothing that a search asks about an element fails for the lack of a class or interface. -/
def Unhindered (reg : Registry) (kind : SearchKind) : Element → Prop
  | .classLike name => kind = .get → ∀ above ∈ reg.superclasses name, reg.hasClass above = true
  | .method ref => kind = .find → reg.Sheltered ref.owner
  | .annotType _ => True

section

variable {kind : SearchKind} {target : String} {proc : Processor σ ρ}
  {descend descend' : Descend σ ρ}
  (hd : ∀ element depth, Unhindered search.reg kind element →
    Abreast search.reg False (descend element depth) (descend' element depth))

include hd

theorem inAnnots_abreast (element : Element) (depth : Nat) (annots : List Annot) :
    Abreast search.reg False (search.inAnnots target proc descend element depth annots)
      (search.pruned.inAnnots target proc descend' element depth annots) := by
  refine Abreast.inTurn.inAnnots rfl (fun annot _ => ?_) fun annot _ => ?_
  · unfold offer
    split
    · rw [← bind_pure (Walk.onState _)]
      exact .onState .pure
    · exact .pure none
  · refine (hd (.annotType annot.type) (depth + 1) trivial).bind fun found => ?_
    cases found with
    | none => exact .pure none
    | some result => exact .onState fun result => .pure (some result)

/-- A sheltered class names the same interfaces in both registries. -/
theorem onInterfaces_abreast {name : String} {decl : ClassDecl}
    (shelter : search.reg.Sheltered name) (known : search.reg.classDecl name = .ok decl)
    (ref : MethodRef) (depth : Nat) :
    Abreast search.reg False (search.onInterfaces descend ref depth decl.interfaces)
      (search.pruned.onInterfaces descend' ref depth
        (decl.keeping search.reg.hasClass).interfaces) := by
  have all : (decl.keeping search.reg.hasClass).interfaces = decl.interfaces :=
    List.filter_eq_self.2 fun interface mem => (shelter.interface known mem).1
  rw [all]
  refine Abreast.inTurn.firstSome fun interface mem => ?_
  obtain ⟨start, shelter⟩ := shelter.interface known mem
  obtain ⟨answers, finds⟩ := shelter.pruned_interface start
  refine .askingInterface answers fun annotated => ?_
  cases annotated with
  | false => exact .pure none
  | true =>
    refine .asking (finds ref.name ref.parameters) fun equivalent found => ?_
    cases equivalent with
    | none => exact .pure none
    | some equivalent =>
      exact hd (.method equivalent) depth fun _ => shelter.findInterfaceMethod start found

theorem onSuperclass_abreast {name : String} (shelter : search.reg.Sheltered name)
    (ref : MethodRef) (depth : Nat) :
    Abreast search.reg False (search.onSuperclass descend ref depth name)
      (search.pruned.onSuperclass descend' ref depth name) := by
  refine .askingClass fun decl known => .orElse ?_ ?_
  · change Abreast _ _ _ (if (decl.method? ref.name ref.parameters).isSome then _ else _)
    split
    · refine .asking (search.reg.pruned_resolveBridge _) fun overridden found => ?_
      refine hd (.method overridden) depth fun _ => ?_
      rw [Registry.resolveBridge_owner found]
      exact shelter
    · exact .pure none
  · exact onInterfaces_abreast hd shelter known ref depth

theorem onMethod_abreast {ref : MethodRef} (shelter : search.reg.Sheltered ref.owner)
    (depth : Nat) :
    Abreast search.reg True (search.onMethod descend ref depth)
      (search.pruned.onMethod descend' ref depth) := by
  refine .asking (search.reg.pruned_resolveBridge ref) fun bridged found =>
    .orElse (hd (.method bridged) depth fun _ => ?_) ?_
  · rw [Registry.resolveBridge_owner found]
    exact shelter
  refine .askingClass fun decl known => .orElse ?_ ?_
  · exact onInterfaces_abreast hd shelter known ref depth
  · change Abreast _ _ _ (Walk.firstSome (search.pruned.onSuperclass descend' ref depth)
      (search.reg.pruned.superclasses ref.owner))
    rw [Registry.pruned_superclasses]
    refine .firstSome_failing (search.reg.superclasses_pairwise ref.owner)
      (fun above mem _ => onSuperclass_abreast hd (shelter.superclass mem) ref depth) ?_
    intro above _ unknown walk
    refine ⟨.unknownClass above, rfl, ?_⟩
    unfold onSuperclass
    rw [bind_apply, lift_apply, search.reg.classDecl_of_not_hasClass unknown]

variable (hv : Vain search.reg descend)

include hv

theorem onClass_abreast (find : kind = .find) (name : String) (depth : Nat) :
    Abreast search.reg False (search.onClass descend name depth)
      (search.pruned.onClass descend' name depth) := by
  refine .askingClass fun decl known => ?_
  have rest : (decl.keeping search.reg.hasClass).interfaces ++
      (decl.keeping search.reg.hasClass).superclass.toList =
      (decl.interfaces ++ decl.superclass.toList).filter search.reg.hasClass := by
    rw [List.filter_append]
    exact congrArg _ (Registry.supers_keeping _ decl)
  rw [rest]
  refine .firstSome_vain (fun above _ _ => hd (.classLike above) depth fun get => ?_)
    fun above _ unknown => hv (.classLike above) (by simp [Registry.missing, unknown]) depth
  cases find.symm.trans get

theorem beyond_abreast (free : Unhindered search.reg kind element) (depth : Nat) :
    Abreast search.reg True (search.beyond kind target proc descend element depth)
      (search.pruned.beyond kind target proc descend' element depth) := by
  unfold beyond
  split
  · exact .asking (search.reg.pruned_inheritedAnnots (free rfl)) fun annots _ =>
      (inAnnots_abreast hd _ depth annots).mayAbandon
  · exact (onClass_abreast hd hv rfl _ depth).mayAbandon
  · exact onMethod_abreast hd (free rfl) depth
  · exact .pure none

theorem expand_abreast (free : Unhindered search.reg kind element) (depth : Nat) :
    Abreast search.reg True (search.expand kind target proc descend element depth)
      (search.pruned.expand kind target proc descend' element depth) := by
  refine .asking rfl fun _ _ => ?_
  refine .asking (search.reg.pruned_declaredAnnots element) fun annots _ => ?_
  exact (inAnnots_abreast hd element depth annots).orElse (beyond_abreast hd hv free depth)

end

/-- Where nothing fails for the lack of a class, a search and the search over the pruned registry find
the same. -/
theorem searchElement_abreast (kind : SearchKind) (target : String) (proc : Processor σ ρ)
    (fuel : Nat) (element : Element) (depth : Nat) (free : Unhindered search.reg kind element) :
    Abreast search.reg False (search.searchElement kind target proc fuel element depth)
      (search.pruned.searchElement kind target proc fuel element depth) := by
  induction fuel generalizing element depth with
  | zero => exact .pure none
  | succ fuel ih =>
    cases missing : search.reg.missing element with
    | false =>
      have vain : Vain search.reg (search.searchElement kind target proc fuel) :=
        searchElement_vain kind target proc fuel
      exact .enter missing (expand_abreast ih vain free depth)
    | true =>
      intro walk walk' beside
      obtain ⟨after, left, beside⟩ :=
        searchElement_vain kind target proc (fuel + 1) element missing depth walk walk' beside
      obtain ⟨after', right, beside⟩ :=
        pruned_searchElement_vain kind target proc (fuel + 1) missing depth beside
      rw [left, right]
      exact .alike beside

theorem fuel_pruned (search : Search) : search.pruned.fuel = search.fuel := by
  unfold fuel pruned Registry.pruned
  rw [List.foldr_map]
  rfl

/-- A search from an element where nothing fails for the lack of a class finds what it finds over the
pruned registry. -/
theorem searchFrom_pruned (kind : SearchKind) (target : String) (proc : Processor σ ρ)
    (depth : Nat) (free : Unhindered search.reg kind element) {walk walk' : Walk σ}
    (beside : Walk.Beside search.reg walk walk') :
    (search.pruned.searchFrom kind target proc element depth walk').1 =
      (search.searchFrom kind target proc element depth walk).1 := by
  have ends :=
    searchElement_abreast kind target proc search.fuel element depth free _ _ beside.begin
  unfold searchFrom
  rw [fuel_pruned]
  generalize search.searchElement _ _ _ _ _ _ _ = left at ends ⊢
  generalize search.pruned.searchElement _ _ _ _ _ _ _ = right at ends ⊢
  cases ends with
  | alike _ => rfl
  | abandoned may => exact may.elim

section

variable {target : String} {proc : Processor σ ρ} {descend descend' : Descend σ ρ}
  (hd : ∀ element depth, Unhindered search.reg .get element →
    Abreast search.reg False (descend element depth) (descend' element depth))

include hd

/-- What a class inherits is found over both registries or over the pruned one alone. -/
theorem beyond_hides (element : Element) (depth : Nat) :
    Hides search.reg (search.beyond .get target proc descend element depth)
      (search.pruned.beyond .get target proc descend' element depth) := by
  cases element with
  | classLike name =>
    refine .asking (fun annots known => ?_) fun annots _ =>
      (inAnnots_abreast hd (.classLike name) depth annots).hides
    have whole := search.reg.hasClass_of_inheritedAnnots known
    exact (search.reg.pruned_inheritedAnnots whole).trans known
  | method ref => exact .none
  | annotType name => exact .none

theorem expand_hides (element : Element) (depth : Nat) :
    Hides search.reg (search.expand .get target proc descend element depth)
      (search.pruned.expand .get target proc descend' element depth) := by
  refine .asking (fun _ within => within) fun _ _ => ?_
  refine .asking (fun annots known => ?_) fun annots _ => ?_
  · exact (search.reg.pruned_declaredAnnots element).trans known
  exact .orElse (inAnnots_abreast hd element depth annots) (beyond_hides hd element depth)

end

/-- What a get search finds it finds over the pruned registry too. -/
theorem searchFrom_hides (target : String) (proc : Processor σ ρ) (element : Element) (depth : Nat)
    {walk walk' : Walk σ} (beside : Walk.Beside search.reg walk walk') {result : ρ}
    (found : (search.searchFrom .get target proc element depth walk).1 = .ok (some result)) :
    (search.pruned.searchFrom .get target proc element depth walk').1 = .ok (some result) := by
  unfold searchFrom at found ⊢
  rw [fuel_pruned]
  cases missing : search.reg.missing element with
  | true =>
    obtain ⟨_, nothing, _⟩ :=
      searchElement_vain .get target proc search.fuel element missing depth _ _ beside.begin
    rw [nothing] at found
    cases found
  | false =>
    have steps (fuel : Nat) (element : Element) (depth : Nat)
        (free : Unhindered search.reg .get element) :=
      searchElement_abreast .get target proc fuel element depth free
    exact Hides.enter missing (expand_hides (steps _) element depth) _ _ beside.begin result found

end Search
end Annotations
