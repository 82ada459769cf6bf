import Annotations.Proofs.Alias.Symmetry
import Annotations.Proofs.Merge.Backings
import Annotations.View.Resolved

/-!
Two attributes of one declared type that list each other are read together: both or neither, whatever of
their group is set and whatever was read before. They find the same set values, in different orders, so
they conflict together and settle on equal values; only the types of stores in these can tell one from
the other.
-/
namespace Annotations

open Annotations.Action SynthMemo Registry
open Value (sameOption_congr sameOption_refl)

variable {reg : Registry} {view : View} {source : Source} {type : String} {a b : Attr} {e : Error}

/-- A view in use keeps right answers, and the values that it reads. -/
structure Reading.Right (reg : Registry) (view : View) (reading : Reading) : Prop where
  sound : Sound reg reading.memo
  resolved : ∀ name value, reading.resolved.get? name = some value →
    ∀ memo, Sound reg memo → (view.attr reg name memo).1 = .ok value

namespace View

theorem right_fresh {memo : SynthMemo} (sound : Sound reg memo) : Reading.Right reg view ⟨memo, []⟩ :=
  ⟨sound, by simp⟩

/-- Where all declarations are sound, a view in use reads what it would read at first. -/
theorem read_computes (valid : reg.AliasesValid) (known : reg.NestedKnown) (name : String) :
    Computes (Reading.Right reg view) (view.read reg name) (view.attr reg name {}).1 := by
  intro reading right
  have steady (memo : SynthMemo) (sound : Sound reg memo) :=
    ((asked_alike valid known).attr view name).outcome ⟨sound, sound_empty⟩
  unfold read
  cases kept : reading.resolved.get? name with
  | some value => exact ⟨(right.resolved name value kept {} sound_empty).symm, right⟩
  | none =>
    obtain ⟨same, after⟩ := steady reading.memo right.sound
    rw [← same]
    generalize first : view.attr reg name reading.memo = result at after same
    obtain ⟨outcome, memo⟩ := result
    cases outcome with
    | error e => exact ⟨rfl, after.1, right.resolved⟩
    | ok value =>
      refine ⟨rfl, after.1, fun other value' held memo' sound => ?_⟩
      simp only [Entries.get?_put] at held
      split at held
      · rename_i here
        cases held
        rw [← here, (steady memo' sound).1, ← same]
      · exact right.resolved other value' held memo' sound

theorem readAll_right (valid : reg.AliasesValid) (known : reg.NestedKnown) (names : List String)
    {reading : Reading} (right : reading.Right reg view) :
    (view.readAll reg names reading).Right reg view := by
  induction names generalizing reading with
  | nil => exact right
  | cons name rest ih => exact ih (read_computes valid known name reading right).2

theorem attr_failed (found : view.type.attr? a.name = some a) (h : view.pick a = .error e)
    (memo : SynthMemo) : (view.attr reg a.name memo).1 = .error e := by
  unfold View.attr attrWith
  simp only [found, h]
  rfl

/-- Attributes with equal defaults whose groups have the same members conflict together. -/
theorem pick_error_together (defaults : SameDefault a b)
    (group : ∀ member, member ∈ aliasGroup view.aliases a.name → member ∈ aliasGroup view.aliases b.name)
    (h : view.pick a = .error e) : ∃ e', view.pick b = .error e' := by
  have equal := defaults.sameOption
  obtain ⟨left, _, own, _, _⟩ := defaults
  cases picked : view.pick b with
  | error e' => exact ⟨e', rfl⟩
  | ok value =>
    obtain ⟨set, _⟩ := pick_means picked
    cases went : view.settle a.default? (listed view.aliases a.name) (view.raw a.name) a.name with
    | ok settled =>
      obtain ⟨value', chosen⟩ := Option.isSome_iff_exists.1
        (show (settled.or a.default?).isSome = true by simp [own])
      cases h.symm.trans (pick_of_settled went chosen)
    | error e' =>
      -- the two set values that differ would both equal the value that is picked
      obtain ⟨p, mem, q, mem', isSet, isSet', differ⟩ := settle_error rfl went
      have first := set p (group p mem) (isSet_congr equal ▸ isSet)
      have second := set q (group q (.tail _ mem')) (isSet_congr equal ▸ isSet')
      rw [sameOption_congr first second, sameOption_refl] at differ
      cases differ

section

variable (matched : reg.PairsMatched) (of : view.Of reg source type)
  (there : b.name ∈ listed view.aliases a.name) (here : a.name ∈ listed view.aliases b.name)

include matched of there here

theorem group_together (member : String) :
    member ∈ aliasGroup view.aliases a.name ↔ member ∈ aliasGroup view.aliases b.name := by
  obtain ⟨_, map⟩ := aliasMapOf_aliasMap of.aliases
  exact map.aliasGroup_of_both matched there here

omit here matched in
theorem sameDefault_of_listed (found : view.type.attr? a.name = some a)
    (found' : view.type.attr? b.name = some b) : SameDefault a b := by
  obtain ⟨decl, map⟩ := aliasMapOf_aliasMap of.aliases
  cases of.type.symm.trans map.known
  obtain ⟨_, _, _, declared, declared', same⟩ := map.partner there
  cases found.symm.trans declared
  cases found'.symm.trans declared'
  exact same

end

/-- Two attributes of one declared type that list each other are both read, as equal values, or neither
is, whatever was read before; but for where they settle on different values that are equal without
being twins, and even then the values that are read are equal. -/
theorem read_together (valid : reg.AliasesValid) (known : reg.NestedKnown)
    (matched : reg.PairsMatched) {element : Option Element}
    (made : Yields (Sound reg) (reg.viewSource element source type) (.ok view))
    (found : view.type.attr? a.name = some a) (found' : view.type.attr? b.name = some b)
    (types : a.type = b.type) (there : b.name ∈ listed view.aliases a.name)
    (here : a.name ∈ listed view.aliases b.name) {memo memo' : SynthMemo} (sound : Sound reg memo)
    (sound' : Sound reg memo') (names names' : List String) :
    Outcome.Meet (fun value value' => value.same value' = true) (fun _ _ => True)
        (view.read reg a.name (view.readAll reg names ⟨memo, []⟩)).1
        (view.read reg b.name (view.readAll reg names' ⟨memo', []⟩)).1 ∨
      ∃ picked picked', view.pick a = .ok picked ∧ view.pick b = .ok picked' ∧
        picked.same picked' = true ∧ ¬ picked.Twins picked' ∧
        ∀ value value',
          (view.read reg a.name (view.readAll reg names ⟨memo, []⟩)).1 = .ok value →
          (view.read reg b.name (view.readAll reg names' ⟨memo', []⟩)).1 = .ok value' →
          value.same value' = true := by
  rw [(read_computes valid known a.name _ (readAll_right valid known names (right_fresh sound))).1,
    (read_computes valid known b.name _
      (readAll_right valid known names' (right_fresh sound'))).1]
  have of := viewSource_of made
  have group := group_together matched of there here
  have defaults := sameDefault_of_listed of there found found'
  have defaults' := sameDefault_of_listed of here found' found
  have same (picked picked' : Value) (pick : view.pick a = .ok picked)
      (pick' : view.pick b = .ok picked') : picked.same picked' = true :=
    pick_alias_same of of defaults.sameOption group pick pick'
  have results (value value' : Value) (read : (view.attr reg a.name {}).1 = .ok value)
      (read' : (view.attr reg b.name {}).1 = .ok value') : value.same value' = true :=
    attr_picked_same found found' types same ⟨{}, sound_empty, read⟩ ⟨{}, sound_empty, read'⟩
  cases pick : view.pick a with
  | error e =>
    obtain ⟨e', pick'⟩ := pick_error_together defaults (fun member => (group member).1) pick
    rw [attr_failed found pick, attr_failed found' pick']
    exact .inl (.error trivial)
  | ok picked =>
    cases pick' : view.pick b with
    | error e =>
      obtain ⟨e', failed⟩ := pick_error_together defaults' (fun member => (group member).2) pick'
      cases pick.symm.trans failed
    | ok picked' =>
      by_cases twins : picked.Twins picked'
      · have both := attr_twins (E := fun _ _ => True) (asked_alike valid known) rfl found found' types
          pick pick' twins (fun _ _ _ => trivial) (fun _ _ => trivial) {} {} ⟨sound_empty, sound_empty⟩
        exact .inl (both.1.sharpen results)
      · exact .inr ⟨picked, picked', rfl, rfl, same picked picked' pick pick', twins, results⟩

end View

namespace Registry

theorem pages_aliasesValid : pages.AliasesValid :=
  aliasesValid_of_entries (by with_unfolding_all decide)

theorem pages_nestedKnown : pages.NestedKnown :=
  nestedKnown_of_entries (by with_unfolding_all decide)

theorem pages_pairsMatched : pages.PairsMatched :=
  PairsMutual.matched (pairsMutual_of_entries (by with_unfolding_all decide))
    (distinctAttrs_of_entries (by with_unfolding_all decide))

theorem pages_viewSource (values : Entries Value) :
    Yields (Sound pages) (pages.viewSource none (.annot ⟨"test.Page", values⟩) "test.Page")
      (.ok (pageView (.annot ⟨"test.Page", values⟩))) :=
  ⟨{}, sound_empty, pages_viewAnnot values⟩

/-- On a page where nothing is given the head cannot be read and the title can, though they list each
other: either goes on to the other's default. -/
theorem empty_page_split :
    pages.AliasesValid ∧ pages.NestedKnown ∧ pages.PairsMatched ∧
      (pages.viewAnnot ⟨"test.Page", []⟩ none {}).1 = .ok (pageView (.annot ⟨"test.Page", []⟩)) ∧
      listed (pageView (.annot ⟨"test.Page", []⟩)).aliases "head" = ["title"] ∧
      listed (pageView (.annot ⟨"test.Page", []⟩)).aliases "title" = ["head"] ∧
      ((pageView (.annot ⟨"test.Page", []⟩)).attr pages "head" {}).1 = .error
        (.attributeTypeMismatch "head" "test.Page" "@test.Note" "AnnotationAttributes") ∧
      ((pageView (.annot ⟨"test.Page", []⟩)).attr pages "title" {}).1 =
        .ok (.annot "test.Note" [("text", .text "")]) := by
  refine ⟨pages_aliasesValid, pages_nestedKnown, pages_pairsMatched, pages_viewAnnot [], rfl, rfl, ?_,
    by with_unfolding_all rfl⟩
  exact Outcome.error_of_map (f := fun _ => ()) (by with_unfolding_all decide)

/-- A head that is given is read as the title too, also where the title was read before. -/
theorem headedPage_together :
    pages.AliasesValid ∧ pages.NestedKnown ∧ pages.PairsMatched ∧ Sound pages {} ∧
      Outcome.Meet (fun value value' => value.same value' = true) (fun _ _ => True)
        ((pageView (.annot headedPage)).read pages "head"
          ((pageView (.annot headedPage)).readAll pages ["title"] ⟨{}, []⟩)).1
        ((pageView (.annot headedPage)).read pages "title"
          ((pageView (.annot headedPage)).readAll pages [] ⟨{}, []⟩)).1 := by
  refine ⟨pages_aliasesValid, pages_nestedKnown, pages_pairsMatched, sound_empty, ?_⟩
  have together := View.read_together (a := note "head" "title" "test.Note")
    (b := note "title" "head" "test.Map") pages_aliasesValid pages_nestedKnown pages_pairsMatched
    (pages_viewSource headedPage.values) rfl rfl rfl (.head _) (.head _) sound_empty sound_empty
    ["title"] []
  refine together.resolve_right ?_
  rintro ⟨picked, picked', pick, pick', _, differ, _⟩
  cases pick
  cases pick'
  exact differ .refl

end Registry
end Annotations
