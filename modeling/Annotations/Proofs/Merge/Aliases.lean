import Annotations.Proofs.Merge.Congruence

/-!
Aliases read alike: two attributes of one declared type whose groups have the same members have
equal values in every view. A value set for one member is what all of them read, and where none is
set they read equal defaults.
-/
namespace Annotations

open Annotations.Action SynthMemo Value Registry

variable {reg : Registry} {view view' : View} {default? default?' : Option Value}

namespace View

theorem isSet_congr {value : Option Value} (same : sameOption default? default?' = true) :
    isSet value default? = isSet value default?' := by
  unfold isSet
  rw [sameOption_congr (sameOption_refl value) same]

theorem isSome_of_isSet {value : Option Value} (h : isSet value default? = true) :
    value.isSome = true :=
  ((Bool.and_eq_true_iff).1 h).1

/-- Going through aliases ends at a value that every set value equals, and at one that is not set if
none is. -/
theorem settle_means {partners : List String} {value result : Option Value} {declaredBy : String}
    (h : view.settle default? partners value declaredBy = .ok result) :
    (∀ member ∈ value :: partners.map view.raw, isSet member default? = true →
      sameOption member result = true) ∧
    ((∀ member ∈ value :: partners.map view.raw, isSet member default? = false) →
      isSet result default? = false) := by
  induction partners generalizing value declaredBy with
  | nil =>
    cases h
    refine ⟨fun member mem _ => ?_, fun all => all _ (.head _)⟩
    cases List.mem_singleton.1 mem
    exact sameOption_refl result
  | cons partner rest ih =>
    unfold settle at h
    dsimp only at h
    simp only [List.map_cons] at ih ⊢
    split at h
    · cases h
    · rename_i agree
      split at h
      · rename_i take
        obtain ⟨unset, there⟩ := (Bool.and_eq_true_iff).1 take
        obtain ⟨set, none⟩ := ih h
        refine ⟨fun member mem isSet => ?_, fun all =>
          none fun member mem => all member (.tail _ mem)⟩
        rcases List.mem_cons.1 mem with rfl | mem
        · simp [isSet] at unset
        · exact set member mem isSet
      · rename_i keep
        obtain ⟨set, none⟩ := ih h
        refine ⟨fun member mem isSet' => ?_, fun all => none fun member mem => ?_⟩
        · rcases List.mem_cons.1 mem with rfl | mem
          · exact set _ (.head _) isSet'
          · rcases List.mem_cons.1 mem with rfl | mem
            · -- the alias was not taken, so the value before it is set and agrees
              have own : isSet value default? = true := by
                by_contra unset
                exact keep (by simp [unset, isSome_of_isSet isSet'])
              have equal : sameOption value (view.raw partner) = true := by
                by_contra differ
                exact agree (by simp [own, isSet', differ])
              rw [← sameOption_congr equal (sameOption_refl result)]
              exact set value (.head _) own
            · exact set member (.tail _ mem) isSet'
        · rcases List.mem_cons.1 mem with rfl | mem
          · exact all _ (.head _)
          · exact all member (.tail _ (.tail _ mem))

/-- A value picked where none is set equals the default. -/
theorem picked_default {settled : Option Value} {value : Value}
    (unset : isSet settled default? = false)
    (picked : settled.or default? = some value) : sameOption (some value) default? = true := by
  cases settled with
  | none =>
    rw [Option.none_or] at picked
    rw [picked]
    exact sameOption_refl _
  | some found =>
    cases picked
    simpa [isSet] using unset

theorem pick_ok {attr : Attr} {value : Value} (h : view.pick attr = .ok value) :
    ∃ settled, view.settle attr.default? (listed view.aliases attr.name) (view.raw attr.name)
      attr.name = .ok settled ∧ settled.or attr.default? = some value := by
  obtain ⟨settled, went, h⟩ := Outcome.bind_ok h
  refine ⟨settled, went, ?_⟩
  cases found : settled.or attr.default? with
  | none =>
    rw [found] at h
    cases h
  | some value' =>
    rw [found] at h
    cases h
    rfl

theorem pick_of_settled {attr : Attr} {settled : Option Value} {value : Value}
    (went : view.settle attr.default? (listed view.aliases attr.name) (view.raw attr.name) attr.name =
      .ok settled) (chosen : settled.or attr.default? = some value) :
    view.pick attr = .ok value := by
  unfold pick
  rw [show view.settle attr.default? ((view.aliases.get? attr.name).getD []) (view.raw attr.name)
    attr.name = .ok settled from went]
  simp only [bind, Except.bind, chosen]
  rfl

theorem pick_missing {attr : Attr} {settled : Option Value}
    (went : view.settle attr.default? (listed view.aliases attr.name) (view.raw attr.name) attr.name =
      .ok settled) (chosen : settled.or attr.default? = none) :
    view.pick attr = .error (.missingSynthesizedAttribute view.name attr.name view.elementText) := by
  unfold pick
  rw [show view.settle attr.default? ((view.aliases.get? attr.name).getD []) (view.raw attr.name)
    attr.name = .ok settled from went]
  simp only [bind, Except.bind, chosen]
  rfl

theorem pick_failed {attr : Attr} {e : Error}
    (failed : view.settle attr.default? (listed view.aliases attr.name) (view.raw attr.name)
      attr.name = .error e) : view.pick attr = .error e := by
  unfold pick
  rw [show view.settle attr.default? ((view.aliases.get? attr.name).getD []) (view.raw attr.name)
    attr.name = .error e from failed]
  rfl

theorem isSet_none {value : Option Value} (h : isSet value none = false) : value = none := by
  cases value with
  | none => rfl
  | some value => cases h

theorem Of.raw_eq {source : Source} {name : String} (h : view.Of reg source name)
    (h' : view'.Of reg source name) (attr : String) : view.raw attr = view'.raw attr := by
  unfold raw
  rw [h.source, h'.source, h.same_type h']

/-- A picked value equals what is set for any member of the group, and the default where none is. -/
theorem pick_means {attr : Attr} {picked : Value} (h : view.pick attr = .ok picked) :
    (∀ member ∈ attr.name :: listed view.aliases attr.name,
      isSet (view.raw member) attr.default? = true →
      sameOption (view.raw member) (some picked) = true) ∧
    ((∀ member ∈ attr.name :: listed view.aliases attr.name,
      isSet (view.raw member) attr.default? = false) →
      sameOption (some picked) attr.default? = true) := by
  obtain ⟨settled, went, found⟩ := pick_ok h
  obtain ⟨set, unset⟩ := settle_means went
  rw [← List.map_cons (f := view.raw)] at set unset
  refine ⟨fun member mem isSet' => ?_, fun none => picked_default (unset fun raw mem => ?_) found⟩
  · have equal := set _ (List.mem_map_of_mem mem) isSet'
    obtain ⟨raw, held⟩ := Option.isSome_iff_exists.1 (isSome_of_isSet isSet')
    rw [held] at equal ⊢
    cases settled with
    | none => cases equal
    | some value =>
      cases found
      exact equal
  · obtain ⟨name, inside, rfl⟩ := List.mem_map.1 mem
    exact none name inside

/-- Attributes with equal defaults whose groups have the same members pick equal values. -/
theorem pick_alias_same {source : Source} {name : String} (h : view.Of reg source name)
    (h' : view'.Of reg source name) {attr attr' : Attr}
    (defaults : sameOption attr.default? attr'.default? = true)
    (group : ∀ member, member ∈ attr.name :: listed view.aliases attr.name ↔
      member ∈ attr'.name :: listed view'.aliases attr'.name)
    {value value' : Value} (picked : view.pick attr = .ok value)
    (picked' : view'.pick attr' = .ok value') : value.same value' = true := by
  obtain ⟨set, unset⟩ := pick_means picked
  obtain ⟨set', unset'⟩ := pick_means picked'
  by_cases some' : ∃ member ∈ attr.name :: listed view.aliases attr.name,
      isSet (view.raw member) attr.default? = true
  · obtain ⟨member, mem, isSet'⟩ := some'
    have left := set member mem isSet'
    rw [h.raw_eq h'] at left isSet'
    have right := set' member ((group member).1 mem) (isSet_congr defaults ▸ isSet')
    exact (sameOption_congr left right).symm.trans (sameOption_refl _)
  · have none' : ∀ member ∈ attr.name :: listed view.aliases attr.name,
        isSet (view.raw member) attr.default? = false := fun member mem => by
      by_contra isSet'
      exact some' ⟨member, mem, by simpa using isSet'⟩
    have left := unset none'
    have right := unset' fun member mem => by
      rw [← h.raw_eq h', ← isSet_congr defaults]
      exact none' member ((group member).2 mem)
    exact (sameOption_congr left right).trans defaults

/-- Attributes of one declared type for which equal values are picked have equal values. -/
theorem attrWith_picked_same {nested nested' : Value → Source → String → Action SynthMemo Annot}
    (makes : Makes reg nested nested') {attr attr' : Attr}
    (found : view.type.attr? attr.name = some attr)
    (found' : view'.type.attr? attr'.name = some attr') (types : attr.type = attr'.type)
    (alike : ∀ picked picked', view.pick attr = .ok picked → view'.pick attr' = .ok picked' →
      picked.same picked' = true)
    {value value' : Value} (read : Yields (Sound reg) (view.attrWith nested attr.name) (.ok value))
    (read' : Yields (Sound reg) (view'.attrWith nested' attr'.name) (.ok value')) :
    value.same value' = true := by
  obtain ⟨picked, pick, read⟩ := attrWith_ok found read
  obtain ⟨picked', pick', read'⟩ := attrWith_ok found' read'
  rw [types] at read
  exact fit_same (makes.keeps picked) (makes.keeps' picked') (makes.same picked picked')
    (wrap_same attr'.type (alike picked picked' pick pick')) read read'

/-- Attributes of one declared type and with equal defaults whose groups have the same members have
equal values. -/
theorem attrWith_alias_same {source : Source} {name : String} (h : view.Of reg source name)
    (h' : view'.Of reg source name)
    {nested nested' : Value → Source → String → Action SynthMemo Annot}
    (makes : Makes reg nested nested') {attr attr' : Attr}
    (found : view.type.attr? attr.name = some attr)
    (found' : view'.type.attr? attr'.name = some attr') (types : attr.type = attr'.type)
    (defaults : sameOption attr.default? attr'.default? = true)
    (group : ∀ member, member ∈ attr.name :: listed view.aliases attr.name ↔
      member ∈ attr'.name :: listed view'.aliases attr'.name)
    {value value' : Value} (read : Yields (Sound reg) (view.attrWith nested attr.name) (.ok value))
    (read' : Yields (Sound reg) (view'.attrWith nested' attr'.name) (.ok value')) :
    value.same value' = true :=
  attrWith_picked_same makes found found' types
    (fun _ _ => pick_alias_same h h' defaults group) read read'

theorem makes_annots (view view' : View) :
    Makes reg (fun value => reg.materialize view.element (reg.nestingBound value))
      fun value => reg.materialize view'.element (reg.nestingBound value) where
  keeps value := reg.asked_keeps.materialize view.element (reg.nestingBound value)
  keeps' value := reg.asked_keeps.materialize view'.element (reg.nestingBound value)
  same _ _ := Registry.materialize_same

theorem attr_picked_same {attr attr' : Attr} (found : view.type.attr? attr.name = some attr)
    (found' : view'.type.attr? attr'.name = some attr') (types : attr.type = attr'.type)
    (alike : ∀ picked picked', view.pick attr = .ok picked → view'.pick attr' = .ok picked' →
      picked.same picked' = true)
    {value value' : Value} (read : Yields (Sound reg) (view.attr reg attr.name) (.ok value))
    (read' : Yields (Sound reg) (view'.attr reg attr'.name) (.ok value')) :
    value.same value' = true :=
  attrWith_picked_same (makes_annots view view') found found' types alike read read'

theorem attr_alias_same {source : Source} {name : String} (h : view.Of reg source name)
    (h' : view'.Of reg source name) {attr attr' : Attr}
    (found : view.type.attr? attr.name = some attr)
    (found' : view'.type.attr? attr'.name = some attr') (types : attr.type = attr'.type)
    (defaults : sameOption attr.default? attr'.default? = true)
    (group : ∀ member, member ∈ attr.name :: listed view.aliases attr.name ↔
      member ∈ attr'.name :: listed view'.aliases attr'.name)
    {value value' : Value} (read : Yields (Sound reg) (view.attr reg attr.name) (.ok value))
    (read' : Yields (Sound reg) (view'.attr reg attr'.name) (.ok value')) :
    value.same value' = true :=
  attr_picked_same found found' types (fun _ _ => pick_alias_same h h' defaults group) read read'

end View
end Annotations
