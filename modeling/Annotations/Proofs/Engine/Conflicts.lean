import Annotations.Proofs.Engine.Trails
import Annotations.Proofs.Merge.Rivals
import Annotations.Vocabulary.Web

/-!
Where the conflicts of merges come from. A merge that fails with a conflict has an annotation on its
trail that contradicts itself or holds something that does, or an annotation before the last wrote
one of the two attributes in conflict and left the other.
-/
namespace Annotations

open Annotations.Action SynthMemo Registry

namespace Merge

variable {merge : Merge} {groups : Entries (List String)} {pending : Pending} {element : Element}
  {trail : Trail} {type text name other left right : String}

/-- The values in conflict are told apart by one that an annotation before the last wrote to one of
the attributes alone. -/
def ToldApart (merge : Merge) (trail : Trail) (type name other left right : String) : Prop :=
  type = merge.target ∧ ∃ groups outer last value, merge.reg.aliasMap type = .ok groups ∧
    other ∈ listed groups name ∧ trail = outer ++ [last] ∧
    ((merge.GivesApart groups outer name other value ∧ value.display = left) ∨
      (merge.GivesApart groups outer other name value ∧ value.display = right))

/-- The last step fails with a conflict over the last annotation of a trail or over a value that
told two attributes apart. -/
theorem finish_conflict (builds : merge.processor.Builds (Sound merge.reg) trail pending)
    (h : Yields (Sound merge.reg) (merge.reg.finish element merge.rendering pending)
      (.error (.attributeConflict type text name other left right))) :
    (∃ step ∈ trail, merge.reg.ClashesAt step.1 step.2) ∨
      merge.ToldApart trail type name other left right := by
  obtain ⟨outer, last, annot, decl, base, rfl, descends⟩ := builds_descends builds
  have keeps := merge.reg.asked_keeps.render element merge.rendering
  have clash (h : merge.reg.Clashes annot.toValue) :
      ∃ step ∈ outer ++ [(last, annot)], merge.reg.ClashesAt step.1 step.2 :=
    ⟨(last, annot), List.mem_append_right _ (.head _), .inl h⟩
  obtain ⟨groups, mapped, ⟨name', value, partner, other', mem, own, theirs, differ, same⟩ |
    ⟨name', value, own, _, failed⟩⟩ := finishWith_conflict keeps descends.overlaid.distinct rfl h
  · obtain ⟨rfl, _, rfl, rfl, rfl, rfl⟩ := Error.attributeConflict.inj same
    have apart : name ≠ other := by
      rintro rfl
      cases own.symm.trans theirs
      rw [Value.same_refl] at differ
      cases differ
    have rivals := descends.rivals groups (descends.type ▸ mapped) name other apart
    cases rivals with
    | kept left right =>
      rw [left] at own
      rw [right] at theirs
      rw [descends.overlaid.type, descends.origin.type] at mapped
      exact .inl (clash ⟨annot.type, .annot annot, .here .annot,
        descends.origin.contradicts descends.known mapped render_same mem own theirs differ⟩)
    | agree left right =>
      cases left.symm.trans own
      cases right.symm.trans theirs
      rw [Value.same_refl] at differ
      cases differ
    | first leads =>
      obtain ⟨_, alone, held⟩ := leads
      cases held.symm.trans own
      exact .inr ⟨descends.type, groups, outer, _, _, mapped, mem, rfl, .inl ⟨alone, rfl⟩⟩
    | second leads =>
      obtain ⟨_, alone, held⟩ := leads
      cases held.symm.trans theirs
      exact .inr ⟨descends.type, groups, outer, _, _, mapped, mem, rfl, .inr ⟨alone, rfl⟩⟩
  · have offers := descends.origin.offers descends.known (descends.overlaid.default _ _ own)
    exact .inl (clash (.of_offers .annot offers (render_clashes rfl failed)))

end Merge

namespace Engine

variable {engine : Engine}

/-- A conflict that a merge fails with, whatever was called before, comes from an annotation on its
trail that contradicts itself or holds something that does, or from a value that an annotation
before the last wrote to one of the two attributes alone. -/
theorem merged_conflict_origin (calls : List Call) (key : MergeKey)
    {type text name other left right : String} (h : (engine.merged key (engine.run calls {}).2).1 =
      .error (.attributeConflict type text name other left right)) :
    ∃ s, s.Sensible engine.reg ∧
      (engine.mergeAnew key s).1 = .error (.attributeConflict type text name other left right) ∧
      engine.search.Leads key.kind key.type (engine.trail key s) ∧
      ((∃ step ∈ engine.trail key s, engine.reg.ClashesAt step.1 step.2) ∨
        (engine.mergeOf key).ToldApart (engine.trail key s) type name other left right) := by
  obtain ⟨s, hs, anew⟩ := engine.run_merged calls key
  obtain ⟨leads, ⟨_, breaks⟩ | ⟨pending, builds, finished⟩⟩ := mergeAnew_failed hs (anew.trans h)
  · exact ⟨s, hs, anew.trans h, leads, .inl (Merge.breaks_clashes rfl breaks)⟩
  · exact ⟨s, hs, anew.trans h, leads, Merge.finish_conflict builds finished⟩

end Engine

section

open Vocabulary

/-- Static files are mapped by one half of a pair, and their type names the other half. -/
def Registry.assets : Registry :=
  (base.addTypes [
    ("web.Mapping", {
      attrs := [textAttr "value" (pairedWith "path"), textAttr "path" (pairedWith "value")] }),
    ("web.StaticFiles", {
      metas := [⟨"web.Mapping", [("value", .text "/static")]⟩]
      attrs := [textAttr "path"] })]).addClass "app.Assets" {
    annots := [⟨"web.StaticFiles", [("path", .text "/assets")]⟩] }

/-- A text is given where its type makes one line and many lines aliases. -/
def Registry.poster : Registry :=
  (base.addTypes [
    ("test.Lines", {
      attrs := [{ name := "lines", type := .array .text, default? := some (.text "") }] }),
    ("test.Text", {
      metas := [⟨"test.Lines", []⟩]
      attrs := [
        textAttr "line" (overridingAttr "test.Lines" "lines"),
        { textAttr "lines" (overriding "test.Lines") with type := .array .text }] }),
    ("test.Page", { attrs := [{ name := "text", type := .annot "test.Text" }] }),
    ("test.Poster", {
      metas := [⟨"test.Page", [("text", .annot "test.Text" [])]⟩]
      attrs := [
        { name := "text", type := .annot "test.Text", aliasFor := overriding "test.Page" }]
    })]).addClass "app.Wall" {
    annots := [⟨"test.Poster", [("text", .annot "test.Text" [("line", .text "1")])]⟩] }

/-- An attribute has two aliases that do not list each other: one overrides a type further away. -/
def Registry.bridge : Registry :=
  (base.addTypes [
    ("test.Far", { attrs := [textAttr "end"] }),
    ("test.Near", {
      metas := [⟨"test.Far", []⟩]
      attrs := [textAttr "end" (pairedWith "start"),
        textAttr "start" (overridingAttr "test.Far" "end")] }),
    ("test.Bridge", {
      metas := [⟨"test.Near", []⟩]
      attrs := [
        textAttr "middle" (overridingAttr "test.Near" "start"),
        textAttr "left" (overridingAttr "test.Near" "end"),
        textAttr "right" (overridingAttr "test.Far" "end")] })]).addClass "app.Crossing" {
    annots := [⟨"test.Bridge", [("left", .text "1"), ("right", .text "2")]⟩] }

end

namespace Engine

/-- An engine over a registry, with the default settings. -/
def plain (reg : Registry) : Engine where
  reg

/-- The merge of a type on a class, its values as they are. -/
def onClass (name type : String) : MergeKey where
  kind := .get
  element := .classLike name
  type
  rendering := .raw

theorem assets_conflict : ((plain .assets).merged (onClass "app.Assets" "web.Mapping") {}).1 =
    .error (.attributeConflict "web.Mapping" "class app.Assets" "value" "path"
      "/static" "/assets") :=
  Outcome.error_of_map (f := fun _ => ()) (by with_unfolding_all decide)

/-- Conflicts over annotations none of which gives two attributes that are aliases of each other: a
value written by name meets one of another level, a view reads one value for attributes of different
types, and two attributes are aliases of a third but not of each other. -/
theorem conflicts_without_contradiction :
    (((plain .assets).merged (onClass "app.Assets" "web.Mapping") {}).1 =
        .error (.attributeConflict "web.Mapping" "class app.Assets" "value" "path"
          "/static" "/assets") ∧
      ∀ step ∈ (plain .assets).trail (onClass "app.Assets" "web.Mapping") {},
        ¬ Registry.assets.Clashes step.2.toValue) ∧
    (((plain .poster).merged (onClass "app.Wall" "test.Page") {}).1 =
        .error (.attributeConflict "test.Text" "class app.Wall" "line" "lines" "1" "[1]") ∧
      ∀ step ∈ (plain .poster).trail (onClass "app.Wall" "test.Page") {},
        ¬ Registry.poster.Clashes step.2.toValue) ∧
    ((plain .bridge).merged (onClass "app.Crossing" "test.Near") {}).1 =
        .error (.attributeConflict "test.Bridge" "class app.Crossing" "left" "right" "1" "2") ∧
      ((plain .bridge).trail (onClass "app.Crossing" "test.Near") {}).map
          (fun step => (step.2.type, step.2.values.names)) =
        [("test.Bridge", ["left", "right"]), ("test.Near", [])] ∧
      Registry.bridge.aliasMap "test.Bridge" =
        .ok [("middle", ["left", "right"]), ("left", ["middle"]), ("right", ["middle"])] := by
  refine ⟨⟨assets_conflict, ?assets⟩, ⟨?failed, ?poster⟩, ?bridge, by with_unfolding_all decide,
    by with_unfolding_all decide⟩
  case assets =>
    have lone : ∀ step ∈ (plain .assets).trail (onClass "app.Assets" "web.Mapping") {},
        step.2.toValue.lone = true := by with_unfolding_all decide
    exact fun step mem => not_clashes_of_lone (by with_unfolding_all decide) (lone step mem)
  case failed => exact Outcome.error_of_map (f := fun _ => ()) (by with_unfolding_all decide)
  case poster =>
    have lone : ∀ step ∈ (plain .poster).trail (onClass "app.Wall" "test.Page") {},
        step.2.toValue.lone = true := by with_unfolding_all decide
    exact fun step mem => not_clashes_of_lone (by with_unfolding_all decide) (lone step mem)
  case bridge => exact Outcome.error_of_map (f := fun _ => ()) (by with_unfolding_all decide)

/-- The conflict over the static files is one that a type's own attribute told apart by its name. -/
theorem assets_conflict_origin :
    ∃ s, s.Sensible Registry.assets ∧
      ((plain .assets).mergeAnew (onClass "app.Assets" "web.Mapping") s).1 =
        .error (.attributeConflict "web.Mapping" "class app.Assets" "value" "path"
          "/static" "/assets") ∧
      ((∃ step ∈ (plain .assets).trail (onClass "app.Assets" "web.Mapping") s,
          Registry.assets.ClashesAt step.1 step.2) ∨
        ((plain .assets).mergeOf (onClass "app.Assets" "web.Mapping")).ToldApart
          ((plain .assets).trail (onClass "app.Assets" "web.Mapping") s)
          "web.Mapping" "value" "path" "/static" "/assets") := by
  obtain ⟨s, sensible, anew, _, origin⟩ :=
    @merged_conflict_origin (plain .assets) [] _ _ _ _ _ _ _ assets_conflict
  exact ⟨s, sensible, anew, origin⟩

end Engine
end Annotations
