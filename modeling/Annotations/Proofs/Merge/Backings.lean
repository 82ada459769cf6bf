import Annotations.Proofs.Alias.Replays
import Annotations.Proofs.Merge.Aliases
import Annotations.Proofs.Merge.Clashes
import Annotations.Proofs.Merge.Twins
import Annotations.Vocabulary.Web

/-!
One annotation read live and from a store of its values. The live view reads an attribute that is not
given as its default and the other as absent, and still both find the same set values of an alias group
in the same order: they settle on one value or fail with one error. Only where nothing is set can they
settle on different ones, which are both equal to the default.
-/
namespace Annotations

open Annotations.Action SynthMemo Registry
open Value (sameOption sameOption_congr sameOption_refl same_symm same_trans)

variable {reg : Registry} {annot : Annot} {view stored : View} {attr : Attr} {default? : Option Value}
  {value value' : Option Value}

/-- Two optional values of which both are set or neither; set ones are one. -/
def View.SetAlike (default? value value' : Option Value) : Prop :=
  isSet value default? = isSet value' default? ∧ (isSet value default? = true → value = value')

/-- Two views of an annotation, one of itself and one of its values in a store. -/
structure View.Backings (reg : Registry) (annot : Annot) (view stored : View) : Prop where
  live : view.Of reg (.annot annot) annot.type
  kept : stored.Of reg (.store (.ofAnnot annot)) annot.type
  element : view.element = stored.element

namespace View

theorem SetAlike.unset (h : isSet value default? = false) (h' : isSet value' default? = false) :
    SetAlike default? value value' :=
  ⟨h.trans h'.symm, fun set => by simp [h] at set⟩

/-- Going through aliases with values of which the same ones are set ends alike. -/
theorem settle_setAlike (names : view.name = stored.name) (elements : view.element = stored.element)
    {partners : List String} {declaredBy declaredBy' : String}
    (raw : ∀ partner ∈ partners, SetAlike default? (view.raw partner) (stored.raw partner))
    (own : SetAlike default? value value')
    (by' : isSet value default? = true → declaredBy = declaredBy') :
    Outcome.Meet (SetAlike default?) Eq (view.settle default? partners value declaredBy)
      (stored.settle default? partners value' declaredBy') := by
  induction partners generalizing value value' declaredBy declaredBy' with
  | nil => exact .ok own
  | cons partner rest ih =>
    have other := raw partner (.head rest)
    have later := fun next mem => raw next (.tail partner mem)
    unfold settle
    cases set : isSet value default? with
    | true =>
      obtain rfl := own.2 set
      obtain rfl := by' set
      cases set' : isSet (view.raw partner) default? with
      | true =>
        simp only [← other.2 set', set, set']
        split
        · rw [names, elementText, elements]
          exact .error rfl
        · exact ih later own by'
      | false =>
        simp only [set, set', ← other.1, Bool.and_false, Bool.false_and, Bool.not_true,
          Bool.false_eq_true, if_false]
        exact ih later own by'
    | false =>
      have unset' : isSet value' default? = false := own.1 ▸ set
      simp only [unset', Bool.false_and, Bool.not_false, Bool.true_and, Bool.false_eq_true,
        if_false]
      cases set' : isSet (view.raw partner) default? with
      | true =>
        rw [← other.2 set', isSome_of_isSet set', if_pos rfl, if_pos rfl]
        exact ih later ⟨rfl, fun _ => rfl⟩ fun _ => rfl
      | false =>
        have unsetOther : isSet (stored.raw partner) default? = false := other.1 ▸ set'
        split
        · split
          · exact ih later (.unset set' unsetOther) fun set => by simp [set'] at set
          · exact ih later (.unset set' unset') fun set => by simp [set'] at set
        · split
          · exact ih later (.unset set unsetOther) fun _ => by simp_all
          · exact ih later own fun _ => by simp_all

theorem elementText_eq (elements : view.element = stored.element) :
    view.elementText = stored.elementText := by
  rw [elementText, elements, elementText]

/-- One way of settling makes one pick. -/
theorem pick_congr (names : view.name = stored.name) (elements : view.element = stored.element)
    (went : view.settle attr.default? (listed view.aliases attr.name) (view.raw attr.name) attr.name =
      .ok value)
    (went' : stored.settle attr.default? (listed stored.aliases attr.name) (stored.raw attr.name)
      attr.name = .ok value') (chosen : value.or attr.default? = value'.or attr.default?) :
    view.pick attr = stored.pick attr := by
  cases picked : value.or attr.default? with
  | some picked' => rw [pick_of_settled went picked, pick_of_settled went' (chosen ▸ picked)]
  | none =>
    rw [pick_missing went picked, pick_missing went' (chosen ▸ picked), names, elementText_eq elements]

/-- Where nothing is set a value is picked that equals the default. -/
theorem pick_unset {fallback : Value} (default' : attr.default? = some fallback)
    (went : view.settle attr.default? (listed view.aliases attr.name) (view.raw attr.name) attr.name =
      .ok value) (unset : isSet value attr.default? = false) :
    ∃ picked, view.pick attr = .ok picked ∧ picked.same fallback = true := by
  have there : (value.or attr.default?).isSome = true := by simp [default']
  obtain ⟨picked, chosen⟩ := Option.isSome_iff_exists.1 there
  have same := picked_default unset chosen
  rw [default'] at same
  exact ⟨picked, pick_of_settled went chosen, same⟩

namespace Backings

variable (h : Backings reg annot view stored) (found : view.type.attr? attr.name = some attr)

include h

theorem names : view.name = stored.name := h.live.named.trans h.kept.named.symm

theorem raw_kept (name : String) : stored.raw name = annot.value? name := by
  unfold raw
  rw [h.kept.source]
  rfl

include found

theorem setAlike {member : String} (mem : member ∈ aliasGroup view.aliases attr.name) :
    SetAlike attr.default? (view.raw member) (stored.raw member) := by
  obtain ⟨other, declared, equal⟩ := h.live.member found mem
  rw [h.live.raw_annot declared, h.raw_kept]
  cases annot.value? member with
  | some given => exact ⟨rfl, fun _ => rfl⟩
  | none =>
    have unset : isSet other.default? attr.default? = false := by
      rw [isSet, sameOption_congr (sameOption_refl _) equal, sameOption_refl]
      simp
    exact .unset unset rfl

/-- Without aliases both views take what is given, or else the default. -/
theorem pick_alone (alone : listed view.aliases attr.name = []) : view.pick attr = stored.pick attr := by
  have went (view : View) (alone : listed view.aliases attr.name = []) :
      view.settle attr.default? (listed view.aliases attr.name) (view.raw attr.name) attr.name =
        .ok (view.raw attr.name) := by
    rw [alone]
    rfl
  refine pick_congr h.names h.element (went view alone)
    (went stored (h.live.same_aliases h.kept ▸ alone)) ?_
  rw [h.live.raw_annot found, h.raw_kept, Option.or_assoc, Option.or_self]

/-- Both views take one value for an attribute or fail with one error, but where nothing is set for it
and its aliases: there they take values that both equal the default. -/
theorem pick : view.pick attr = stored.pick attr ∨
    listed view.aliases attr.name ≠ [] ∧
      (∀ member ∈ aliasGroup view.aliases attr.name,
        isSet (annot.value? member) attr.default? = false) ∧
      ∃ picked picked', view.pick attr = .ok picked ∧ stored.pick attr = .ok picked' ∧
        picked.same picked' = true := by
  by_cases alone : listed view.aliases attr.name = []
  · exact .inl (h.pick_alone found alone)
  have settled : Outcome.Meet (SetAlike attr.default?) Eq
      (view.settle attr.default? (listed view.aliases attr.name) (view.raw attr.name) attr.name)
      (stored.settle attr.default? (listed view.aliases attr.name) (stored.raw attr.name)
        attr.name) :=
    settle_setAlike h.names h.element (fun partner mem => h.setAlike found (.tail _ mem))
      (h.setAlike found (.head _)) fun _ => rfl
  generalize left : view.settle attr.default? (listed view.aliases attr.name) (view.raw attr.name)
    attr.name = outcome at settled
  generalize right : stored.settle attr.default? (listed view.aliases attr.name)
    (stored.raw attr.name) attr.name = outcome' at settled
  rw [h.live.same_aliases h.kept] at right
  cases settled with
  | error same =>
    subst same
    exact .inl ((pick_failed left).trans (pick_failed right).symm)
  | ok alike =>
    rename_i value value'
    cases set : isSet value attr.default? with
    | true => exact .inl (pick_congr h.names h.element left right (by rw [alike.2 set]))
    | false =>
      have unset : isSet value' attr.default? = false := alike.1 ▸ set
      cases default' : attr.default? with
      | none =>
        rw [default'] at set unset
        rw [isSet_none set] at left
        rw [isSet_none unset] at right
        exact .inl (pick_congr h.names h.element left right rfl)
      | some fallback =>
        obtain ⟨picked, pick, same⟩ := pick_unset default' left set
        obtain ⟨picked', pick', same'⟩ := pick_unset default' right unset
        refine .inr ⟨alone, fun member mem => ?_, picked, picked', pick, pick',
          same_trans same (same_symm same')⟩
        rw [h.live.same_aliases h.kept] at mem
        rw [← default', ← h.raw_kept]
        -- what is set for a member would be what is settled on
        by_contra memberSet
        have equal := (settle_means right).1 (stored.raw member)
          (List.map_cons (f := stored.raw) ▸ List.mem_map_of_mem mem) (by simpa using memberSet)
        rw [isSet_same equal, unset] at memberSet
        exact memberSet rfl

end Backings

/-- Results are equal, and errors are one but for the texts of values. -/
def ReadSame : Except Error Value → Except Error Value → Prop :=
  Outcome.Meet (fun value value' => value.same value' = true) Error.SameButTexts

/-- Attributes of one declared type for which twins are picked are read alike in any two related
states. -/
theorem attr_readSame {R : SynthMemo → SynthMemo → Prop} (asked : reg.Asked fun f => Alike R f f)
    (sound : ∀ memo memo', R memo memo' → Sound reg memo ∧ Sound reg memo') (names : view.name = stored.name)
    (elements : view.element = stored.element) (found : view.type.attr? attr.name = some attr)
    (found' : stored.type.attr? attr.name = some attr) {picked picked' : Value}
    (pick : view.pick attr = .ok picked) (pick' : stored.pick attr = .ok picked')
    (twins : picked.Twins picked') {memo memo' : SynthMemo} (related : R memo memo') :
    ReadSame (view.attr reg attr.name memo).1 (stored.attr reg attr.name memo').1 ∧
      R (view.attr reg attr.name memo).2 (stored.attr reg attr.name memo').2 := by
  obtain ⟨meet, after⟩ := attr_twins asked elements found found' rfl pick pick' twins (fun _ _ => id)
    (fun _ _ => names ▸ .refl _) memo memo' related
  obtain ⟨sound, sound'⟩ := sound memo memo' related
  refine ⟨meet.sharpen fun value value' read read' => ?_, after⟩
  refine attr_picked_same found found' rfl (fun left right chosen chosen' => ?_) ⟨memo, sound, read⟩
    ⟨memo', sound', read'⟩
  cases pick.symm.trans chosen
  cases pick'.symm.trans chosen'
  exact twins.same

/-- What both views take one value for they read in one way. -/
theorem Backings.attr_eq (h : Backings reg annot view stored) {name : String}
    (picks : ∀ attr, view.type.attr? name = some attr → view.pick attr = stored.pick attr) :
    view.attr reg name = stored.attr reg name := by
  unfold View.attr attrWith
  simp only [← h.live.same_type h.kept, ← h.names, ← h.element]
  cases found : view.type.attr? name with
  | none => rfl
  | some attr => simp only [picks attr found]

end View

namespace Registry

theorem viewAnnot_element {element : Option Element}
    (h : Yields (Sound reg) (reg.viewAnnot annot element) (.ok view)) : view.element = element := by
  obtain ⟨decl, _, h⟩ := h.bind_ok (reg.asked_keeps.lift _)
  obtain ⟨answer, _, h⟩ := h.bind_ok (reg.asked_keeps.synthesizable _)
  cases answer with
  | true =>
    obtain ⟨aliases, _, h⟩ := h.bind_ok (reg.asked_keeps.aliasMap _)
    cases h.pure
    rfl
  | false =>
    cases h.pure
    rfl

/-- Where there is a view of an annotation, there is one of its values in a store. -/
theorem viewStore_of_viewAnnot {element : Option Element}
    (h : Yields (Sound reg) (reg.viewAnnot annot element) (.ok view)) :
    ∃ stored, view.Backings reg annot stored ∧
      Computes (Sound reg) (reg.viewStore (.ofAnnot annot) annot.type element) (.ok stored) := by
  have live := viewAnnot_of h
  let stored : View := {
    name := annot.type
    type := view.type
    element
    source := .store (.ofAnnot annot)
    aliases := view.aliases
    synthesized := true }
  have kept : stored.Of reg (.store (.ofAnnot annot)) annot.type :=
    ⟨rfl, rfl, live.type, live.aliases⟩
  refine ⟨stored, ⟨live, kept, viewAnnot_element h⟩, fun memo sound => ?_⟩
  obtain ⟨mapped, after⟩ := reg.recallAliasMap_computes annot.type memo sound
  rw [viewStore, bind_apply, lift_apply, live.type]
  simp only [bind_apply, mapped, live.aliases]
  exact ⟨rfl, after⟩

/-- A view of an annotation and one of its values in a store read each attribute alike. They may part
only over an attribute with aliases where nothing is set that differs from the default, and only by
taking different values that both equal the default; equal results are read even then, and if in
stores inside both values the types are the same, both views read the attribute or neither does. -/
theorem backings_agree (annot : Annot) (element : Option Element) {memo : SynthMemo}
    (sound : Sound reg memo) (made : (reg.viewAnnot annot element memo).1 = .ok view) :
    ∃ stored, Computes (Sound reg) (reg.viewStore (.ofAnnot annot) annot.type element) (.ok stored) ∧
      ∀ name, reg.EndsWith Eq (view.attr reg name) (stored.attr reg name) ∨
        ∃ attr picked picked', view.type.attr? name = some attr ∧ view.pick attr = .ok picked ∧
          stored.pick attr = .ok picked' ∧ picked ≠ picked' ∧ picked.same picked' = true ∧
          listed view.aliases name ≠ [] ∧
          (∀ member ∈ aliasGroup view.aliases name,
            View.isSet (annot.value? member) attr.default? = false) ∧
          (∀ value value', Yields (Sound reg) (view.attr reg name) (.ok value) →
            Yields (Sound reg) (stored.attr reg name) (.ok value') → value.same value' = true) ∧
          (picked.Twins picked' →
            reg.EndsWith View.ReadSame (view.attr reg name) (stored.attr reg name)) := by
  obtain ⟨stored, backings, computes⟩ := viewStore_of_viewAnnot ⟨memo, sound, made⟩
  refine ⟨stored, computes, fun name => ?_⟩
  have replays (view : View) := reg.asked_replays.attr view name
  by_cases picks : ∀ attr, view.type.attr? name = some attr → view.pick attr = stored.pick attr
  · refine .inl (.of_asked (replays view) (replays stored) fun R asked _ memo memo' related => ?_)
    rw [backings.attr_eq picks]
    exact (asked.attr stored name).outcome related
  · right
    simp only [not_forall] at picks
    obtain ⟨attr, found, differ⟩ := picks
    obtain ⟨mem, rfl⟩ := mem_of_attr? found
    have found' := backings.live.same_type backings.kept ▸ found
    obtain ⟨aliased, unset, picked, picked', pick, pick', same⟩ :=
      (backings.pick found).resolve_left differ
    refine ⟨attr, picked, picked', found, pick, pick', ?_, same, aliased, unset,
      fun value value' read read' => ?_, fun twins => ?_⟩
    · rintro rfl
      exact differ (pick.trans pick'.symm)
    · refine View.attr_picked_same found found' rfl (fun left right chosen chosen' => ?_) read read'
      cases pick.symm.trans chosen
      cases pick'.symm.trans chosen'
      exact same
    · exact .of_asked (replays view) (replays stored) fun R asked sound memo memo' related =>
        View.attr_readSame asked sound backings.names backings.element found found' pick pick' twins
          related

section

open Vocabulary

/-- A note on a page, by default an empty store of some type, paired with another one. -/
def note (name partner type : String) : Attr where
  name
  type := .annot "test.Note"
  default? := some (.store (some type) none [])
  aliasFor := pairedWith partner

/-- The head and the title of a page are aliases of each other. Their defaults are equal, since stores
are compared without regard to their types, but only the head's is of the type of notes. -/
def page : AnnotType := { attrs := [note "head" "title" "test.Note", note "title" "head" "test.Map"] }

def pages : Registry :=
  base.addTypes [
    ("test.Note", { attrs := [textAttr "text"] }), ("test.Map", {}), ("test.Page", page)]

/-- What a view of a page in some backing is. -/
def pageView (source : Source) : View where
  name := "test.Page"
  type := page
  element := none
  source
  aliases := [("head", ["title"]), ("title", ["head"])]
  synthesized := true

theorem pages_viewAnnot (values : Entries Value) :
    (pages.viewAnnot ⟨"test.Page", values⟩ none {}).1 =
      .ok (pageView (.annot ⟨"test.Page", values⟩)) := by
  with_unfolding_all rfl

/-- Nothing is given on a page. Each attribute's live view goes on to the default of the other one, the
view of the empty store stays with the own one. -/
theorem empty_page_parts :
    (pages.viewAnnot ⟨"test.Page", []⟩ none {}).1 = .ok (pageView (.annot ⟨"test.Page", []⟩)) ∧
      (pages.viewStore (.ofAnnot ⟨"test.Page", []⟩) "test.Page" none {}).1 =
        .ok (pageView (.store (.ofAnnot ⟨"test.Page", []⟩))) ∧
      ((pageView (.annot ⟨"test.Page", []⟩)).attr pages "head" {}).1 = .error
        (.attributeTypeMismatch "head" "test.Page" "@test.Note" "AnnotationAttributes") ∧
      ((pageView (.store (.ofAnnot ⟨"test.Page", []⟩))).attr pages "head" {}).1 =
        .ok (.annot "test.Note" [("text", .text "")]) ∧
      ((pageView (.annot ⟨"test.Page", []⟩)).attr pages "title" {}).1 =
        .ok (.annot "test.Note" [("text", .text "")]) ∧
      ((pageView (.store (.ofAnnot ⟨"test.Page", []⟩))).attr pages "title" {}).1 = .error
        (.attributeTypeMismatch "title" "test.Page" "@test.Note" "AnnotationAttributes") := by
  refine ⟨pages_viewAnnot [], by with_unfolding_all rfl, ?_, by with_unfolding_all rfl,
    by with_unfolding_all rfl, ?_⟩
  · exact Outcome.error_of_map (f := fun _ => ()) (by with_unfolding_all decide)
  · exact Outcome.error_of_map (f := fun _ => ()) (by with_unfolding_all decide)

/-- A page with a head and no title. -/
def headedPage : Annot := ⟨"test.Page", [("head", .annot "test.Note" [("text", .text "t")])]⟩

/-- A head that is given is read alike in both views. -/
theorem headedPage_agrees :
    Sound pages {} ∧ (pages.viewAnnot headedPage none {}).1 = .ok (pageView (.annot headedPage)) ∧
      ∃ stored, Computes (Sound pages) (pages.viewStore (.ofAnnot headedPage) "test.Page" none)
          (.ok stored) ∧
        pages.EndsWith Eq ((pageView (.annot headedPage)).attr pages "head")
          (stored.attr pages "head") := by
  refine ⟨sound_empty, pages_viewAnnot _, ?_⟩
  obtain ⟨stored, computes, reads⟩ := backings_agree headedPage none sound_empty (pages_viewAnnot _)
  refine ⟨stored, computes, (reads "head").resolve_right ?_⟩
  rintro ⟨attr, picked, picked', found, _, _, _, _, _, unset, _⟩
  have here := unset "head" (.head _)
  cases found
  cases here

end

end Registry
end Annotations
