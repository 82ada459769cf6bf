import Annotations.Proofs.View.Equality
import Annotations.Proofs.View.Typing

/-!
Materializing a view. The annotation and the store that all its values make are read again as a view
equal to it, if what is listed as an alias was read as an equal value, in the view and in all that is
nested in it. So it is wherever aliases are of one type and share one group.
-/
namespace Annotations

open Annotations.Action SynthMemo Registry
open Value (sameOption)

variable {reg : Registry}

/-- What is listed as an alias stands beside an equal value, in all annotations in a value. -/
abbrev Value.AliasesAgree (reg : Registry) : Value → Prop :=
  Throughout reg fun annot => ∀ groups a b, reg.aliasMap annot.type = .ok groups →
    b ∈ listed groups a → sameOption (annot.value? a) (annot.value? b) = true

theorem Value.Whole.resolved {value : Value} (whole : value.Whole reg)
    (agree : value.AliasesAgree reg) : value.Resolved reg := by
  refine (whole.and agree).imp ?_
  rintro annot ⟨⟨decl, groups, complete⟩, agree⟩ _
  exact ⟨decl, groups, complete, fun a b => agree groups a b complete.mapped⟩

theorem Value.Resolved.aliasesAgree {value : Value} (h : value.Resolved reg) :
    value.AliasesAgree reg := by
  refine h.imp ?_
  rintro annot ⟨decl, groups, own⟩ _ groups' a b mapped there
  cases own.mapped.symm.trans mapped
  exact own.aliases a b there

/-- Sources that give the same values are resolved together. -/
theorem Source.Resolved.congr {source source' : Source} {type : String} {decl : AnnotType}
    {groups : Entries (List String)} (h : source.Resolved reg type decl groups)
    (same : ∀ name, source.value? name = source'.value? name) :
    source'.Resolved reg type decl groups := by
  refine ⟨⟨h.known, h.mapped, ?_, ?_⟩, ?_⟩
  · intro name attr found
    rw [← same]
    exact h.full name attr found
  · intro name absent
    rw [← same]
    exact h.closed name absent
  · intro a b there
    rw [← same, ← same]
    exact h.aliases a b there

namespace View

variable {view again : View} {source : Source} {type : String} {values : Entries Value}

/-- All attributes of a view can be read, and it equals another view, whatever is kept and whichever way
they are compared. -/
def Restores (reg : Registry) (again view : View) : Prop :=
  ∀ memo, Sound reg memo →
    (∀ attr ∈ again.type.attrs, ∃ value, (again.attr reg attr.name memo).1 = .ok value) ∧
      (again.same view reg memo).1 = .ok true ∧ (view.same again reg memo).1 = .ok true

theorem values_whole (of : view.Of reg source type)
    (read : Yields (Sound reg) (view.values reg) (.ok values)) :
    (Value.annot type values).Whole reg := by
  have keeps (value : Value) := reg.asked_keeps.materialize view.element (reg.nestingBound value)
  apply valuesWith_throughout keeps (fun _ _ _ _ => materialize_whole) of read
  exact ⟨_, _, valuesWith_complete keeps (fun _ _ _ _ => materialize_named) of read⟩

/-- Over a registry whose aliases are aligned, aliases are read as equal values. -/
theorem values_aliasesAgree (aligned : reg.Aligned) (of : view.Of reg source type)
    (read : Yields (Sound reg) (view.values reg) (.ok values)) :
    (Value.annot type values).AliasesAgree reg := by
  have makes : Makes reg _ _ := makes_annots view view
  apply Value.Resolved.aliasesAgree
  apply valuesWith_throughout makes.keeps (fun _ _ _ _ => materialize_resolved aligned) of read
  exact ⟨_, _, valuesWith_complete makes.keeps (fun _ _ _ _ => materialize_named) of read,
    fun _ _ => valuesWith_aliases aligned of makes read⟩

section

variable (valid : reg.AliasesValid) (known : reg.NestedKnown)

include valid known

/-- Where all declarations are sound, the values of a view are the same whatever is kept. -/
theorem values_steady (view : View) {memo memo' : SynthMemo} (sound : Sound reg memo)
    (sound' : Sound reg memo') :
    (view.values reg memo).1 = (view.values reg memo').1 ∧ Sound reg (view.values reg memo).2 := by
  have alike := ((asked_alike valid known).values view).outcome ⟨sound, sound'⟩
  exact ⟨alike.1, alike.2.1⟩

/-- A view of a source that gives the values of another view, all resolved, equals that view. -/
theorem restores_of_resolved (of : again.Of reg source view.name)
    (read : Yields (Sound reg) (view.values reg) (.ok values))
    (same : ∀ name, source.value? name = values.get? name)
    (resolved : source.Resolved reg view.name again.type again.aliases)
    (inside : ∀ name value, values.get? name = some value → value.Resolved reg) :
    again.Restores reg view := by
  have inside (name : String) (value : Value) (own : source.value? name = some value) :
      value.Resolved reg := inside name value (same name ▸ own)
  obtain ⟨kept, sound', outcome⟩ := read
  have here {memo : SynthMemo} (sound : Sound reg memo) : (view.values reg memo).1 = .ok values := by
    rw [← outcome]
    exact (values_steady valid known view sound sound').1
  have there {memo : SynthMemo} (sound : Sound reg memo) :
      ∃ values', (again.values reg memo).1 = .ok values' ∧ Value.sameEntries values' values = true := by
    obtain ⟨values', read, equal, _⟩ := values_again valid known inside of resolved memo sound
    refine ⟨values', read, Value.sameEntries_iff.2 fun name => ?_⟩
    rw [← same]
    exact equal name
  intro memo sound
  refine ⟨?_, ?_, ?_⟩
  · intro attr mem
    obtain ⟨other, found⟩ := attr?_of_name (List.mem_map.2 ⟨attr, mem, rfl⟩)
    obtain ⟨value, read, _⟩ := attr_again valid known inside of resolved found memo sound
    exact ⟨value, read⟩
  · obtain ⟨values', read, equal⟩ := there sound
    rw [same_outcome, read, here (values_steady valid known again sound sound).2]
    simp [verdict, of.named, equal]
  · have after := (values_steady valid known view sound sound).2
    obtain ⟨values', read, equal⟩ := there after
    rw [same_outcome, verdict_symm, read, here sound]
    simp [verdict, of.named, equal]

/-- What a view of any source makes of all its values is, as an annotation and as a store, read again as
a view equal to it, and as an annotation nested in another it stays as it is, if what is listed as an
alias was read as an equal value throughout. That is so wherever aliases are aligned. -/
theorem materialized_restores {element element' : Option Element} {memo : SynthMemo}
    (made : Yields (Sound reg) (reg.viewSource element source type) (.ok view))
    (sound : Sound reg memo) (read : (view.values reg memo).1 = .ok values) :
    (view.toAnnot reg memo).1 = .ok ⟨view.name, values⟩ ∧
      (view.toStore reg memo).1 = .ok { type := some view.name, values } ∧
      (reg.Aligned → (Value.annot view.name values).AliasesAgree reg) ∧
      ((Value.annot view.name values).AliasesAgree reg → ∀ later, Sound reg later →
        (∃ again, (reg.viewAnnot ⟨view.name, values⟩ element' later).1 = .ok again ∧
          again.Restores reg view) ∧
        (∃ again, (reg.viewStore { type := some view.name, values } view.name element' later).1 =
            .ok again ∧ again.Restores reg view) ∧
        ∀ owner name, ∃ nested, (fit owner (reg.materialize element'
            (reg.nestingBound (.annot view.name values))) name (.annot view.name)
            (.annot view.name values) later).1 = .ok nested ∧
          nested.same (.annot view.name values) = true) := by
  have yields : Yields (Sound reg) (view.values reg) (.ok values) := ⟨memo, sound, read⟩
  have of : view.Of reg source view.name := by
    have of := viewSource_of made
    exact ⟨of.source, rfl, of.named ▸ of.type, of.named ▸ of.aliases⟩
  refine ⟨?_, ?_, fun aligned => values_aliasesAgree aligned of yields, fun agree later sound' => ?_⟩
  · unfold toAnnot
    rw [bind_apply, read]
    rfl
  · unfold toStore
    rw [bind_apply, read]
    rfl
  have resolved := (values_whole of yields).resolved agree
  obtain ⟨decl, groups, own⟩ := @Value.Throughout.own _ _ ⟨view.name, values⟩ resolved
  have inside (name : String) (value : Value) (there : values.get? name = some value) :
      value.Resolved reg := own.inside resolved there
  refine ⟨?_, ?_, fun owner name => ?_⟩
  · obtain ⟨again, seen, of', _⟩ := @viewAnnot_ok _ valid known ⟨view.name, values⟩ element' _ _
      own.known own.mapped later sound'
    cases of'.type.symm.trans own.known
    cases of'.aliases.symm.trans own.mapped
    exact ⟨again, seen, restores_of_resolved valid known of' yields (fun _ => rfl) own inside⟩
  · obtain ⟨again, seen, of', _⟩ := @viewStore_ok reg { type := some view.name, values } view.name
      element' _ _ own.known own.mapped later sound'
    cases of'.type.symm.trans own.known
    cases of'.aliases.symm.trans own.mapped
    exact ⟨again, seen, restores_of_resolved valid known of' yields (fun _ => rfl)
      (own.congr fun _ => rfl) inside⟩
  · have fitted : Ensures (Sound reg) (fit owner (reg.materialize element'
        (reg.nestingBound (.annot view.name values))) name (.annot view.name)
        (.annot view.name values)) (·.same (.annot view.name values) = true) := by
      apply fit_again (by simp [Value.conformsTo]) fun _ _ _ => resolved.flat
      intro type values' held
      apply materialize_again valid known (resolved.of_holds held)
      have shallow := held.depth_le
      unfold nestingBound
      omega
    obtain ⟨nested, outcome, same, _⟩ := fitted later sound'
    exact ⟨nested, outcome, same⟩

end

end View

section

open Vocabulary

/-- A tag and an array of tags override the same array, with one default. -/
def taggedType : AnnotType where
  metas := [⟨"test.Index", []⟩]
  attrs := [
    { name := "tag", type := .text, default? := some (.text "x")
      aliasFor := overridingAttr "test.Index" "tags" },
    { name := "tags", type := .array .text, default? := some (.text "x")
      aliasFor := overriding "test.Index" }]

def Registry.tagged : Registry :=
  base.addTypes [("test.Index", { attrs := [arrayAttr "tags" .text] }), ("test.Tagged", taggedType)]

/-- What a view of tags in some backing is. -/
def taggedView (source : Source) : View where
  name := "test.Tagged"
  type := taggedType
  element := none
  source
  aliases := [("tag", ["tags"]), ("tags", ["tag"])]
  synthesized := true

end

namespace Registry

/-- A tag that is given is read as an array of tags as well. Of both together, in an annotation or in a
store, neither can be read: the tag differs from the array of it. -/
theorem tagged_not_restored :
    tagged.AliasesValid ∧ tagged.NestedKnown ∧ tagged.DefaultsFinite ∧
      ∃ values, (tagged.viewAnnot ⟨"test.Tagged", [("tag", .text "y")]⟩ none {}).1 =
          .ok (taggedView (.annot ⟨"test.Tagged", [("tag", .text "y")]⟩)) ∧
        ((taggedView (.annot ⟨"test.Tagged", [("tag", .text "y")]⟩)).values tagged {}).1 = .ok values ∧
        (tagged.viewAnnot ⟨"test.Tagged", values⟩ none {}).1 =
          .ok (taggedView (.annot ⟨"test.Tagged", values⟩)) ∧
        ((taggedView (.annot ⟨"test.Tagged", values⟩)).attr tagged "tag" {}).1 =
          .error (.attributeConflict "test.Tagged" "unknown element" "tag" "tags" "y" "[y]") ∧
        ((taggedView (.annot ⟨"test.Tagged", values⟩)).same
          (taggedView (.annot ⟨"test.Tagged", [("tag", .text "y")]⟩)) tagged {}).1 = .ok false ∧
        (tagged.viewStore { type := some "test.Tagged", values } "test.Tagged" none {}).1 =
          .ok (taggedView (.store { type := some "test.Tagged", values })) ∧
        ((taggedView (.store { type := some "test.Tagged", values })).same
          (taggedView (.annot ⟨"test.Tagged", [("tag", .text "y")]⟩)) tagged {}).1 = .ok false := by
  refine ⟨aliasesValid_of_entries (by with_unfolding_all decide),
    nestedKnown_of_entries (by with_unfolding_all decide),
    defaultsFinite_of_rank (fun _ => 0) (by with_unfolding_all decide),
    [("tag", .text "y"), ("tags", .array [.text "y"])], ?_⟩
  refine ⟨?_, ?_, ?_, ?_, ?_, ?_, ?_⟩
  all_goals with_unfolding_all rfl

theorem web_aligned : web.Aligned :=
  Orderly.aligned
    { distinct := distinctAttrs_of_entries (by with_unfolding_all decide)
      valid := aliasesValid_of_entries (by with_unfolding_all decide)
      pairs := pairsMutual_of_entries (by with_unfolding_all decide)
      types := aliasTypes_of_entries (by with_unfolding_all decide)
      apart := aliasedApart_of_entries (by with_unfolding_all decide)
      known := nestedKnown_of_entries (by with_unfolding_all decide) }

/-- A mapping with a header kept as a store comes back from the annotation that its values make. -/
theorem keptMapping_restored :
    web.AliasesValid ∧ web.NestedKnown ∧ web.Aligned ∧
      ∃ view values, (web.viewStore keptMapping "web.Mapping" none {}).1 = .ok view ∧
        (view.values web {}).1 = .ok values ∧
        ∃ again, (web.viewAnnot ⟨view.name, values⟩ none {}).1 = .ok again ∧
          again.Restores web view := by
  have valid : web.AliasesValid := aliasesValid_of_entries (by with_unfolding_all decide)
  have known : web.NestedKnown := nestedKnown_of_entries (by with_unfolding_all decide)
  refine ⟨valid, known, web_aligned, ?_⟩
  have reads : ((web.viewStore keptMapping "web.Mapping" none {}).1.toOption.bind fun view =>
      (view.values web {}).1.toOption).isSome = true := by with_unfolding_all decide
  obtain ⟨values, reads⟩ := Option.isSome_iff_exists.1 reads
  obtain ⟨view, seen, read⟩ := Option.bind_eq_some_iff.1 reads
  have made : Yields (Sound web) (web.viewSource none (.store keptMapping) "web.Mapping") (.ok view) :=
    ⟨{}, sound_empty, Outcome.ok_of_toOption seen⟩
  have read := Outcome.ok_of_toOption read
  obtain ⟨_, _, agree, restores⟩ :=
    @View.materialized_restores _ _ _ _ _ valid known none none _ made sound_empty read
  obtain ⟨⟨again, seen', restored⟩, _⟩ := restores (agree web_aligned) {} sound_empty
  exact ⟨view, values, Outcome.ok_of_toOption seen, read, again, seen', restored⟩

end Registry
end Annotations
