import Annotations.Proofs.Alias.Groups
import Annotations.Proofs.Alias.History
import Annotations.View

/-!
Views without alias handling. Where alias declarations are valid and nested types are known, a type
is said to need alias handling exactly if it or a type nested in it declares an alias, whatever was
asked before and however types are nested in each other. Where it is said to need none, its
attributes have no aliases and a view reads the same with and without them.
-/
namespace Annotations

open Annotations.Action SynthMemo
open Relation (ReflTransGen)

namespace Registry

variable {reg : Registry} {type : String}

/-- The type or one nested in it declares an alias, on the attribute that is found by its name. -/
def DeclaresWithin (reg : Registry) (type : String) : Prop :=
  ∃ inner decl attr, ReflTransGen reg.Nests type inner ∧ reg.type inner = .ok decl ∧
    attr ∈ decl.attrs ∧ decl.attr? attr.name = some attr ∧ attr.aliasFor.isSome = true

/-- A view of an annotation has no aliases, and reads what a view with the aliases of the type
would. -/
def ReadsPlain (reg : Registry) (memo : SynthMemo) (annot : Annot) (element : Option Element) :
    Prop :=
  ∃ view, (reg.viewAnnot annot element memo).1 = .ok view ∧ view.synthesized = false ∧
    ∀ aliases, reg.aliasMap annot.type = .ok aliases → ∀ later,
      ({ view with aliases, synthesized := true }).values reg later = view.values reg later ∧
        ∀ name, ({ view with aliases, synthesized := true }).attr reg name later =
          view.attr reg name later

theorem aliasLink_of_declared {name : String} {decl : AnnotType} {attr : Attr} {aim : AliasFor}
    (known : reg.type type = .ok decl) (own : decl.attr? name = some attr)
    (declares : attr.aliasFor = some aim) :
    reg.aliasLink type name = some <$> reg.checkAlias type attr aim := by
  simp [aliasLink, known, own, declares, bind, Except.bind]

/-- Where declarations are valid, each one that is found is a link. -/
theorem aliasWithin_iff (valid : reg.AliasesValid) :
    reg.AliasWithin type ↔ reg.DeclaresWithin type := by
  constructor
  · rintro ⟨inner, decl, attr, link, way, known, _, found⟩
    obtain ⟨decl', own, aim, known', declared, declares, _⟩ := aliasLink_declared found
    cases known.symm.trans known'
    obtain ⟨mem, same⟩ := mem_of_attr? declared
    exact ⟨inner, decl, own, way, known, mem, same ▸ declared, by simp [declares]⟩
  · rintro ⟨inner, decl, attr, way, known, mem, own, declares⟩
    obtain ⟨aim, declares⟩ := Option.isSome_iff_exists.1 declares
    obtain ⟨link, linked⟩ := valid inner decl attr known mem
    have checked := linked
    rw [aliasLink_of_declared known own declares] at checked
    obtain ⟨link, _, rfl⟩ := Outcome.map_ok checked
    exact ⟨inner, decl, attr, link, way, known, mem, linked⟩

theorem PlainWithin.aliasMap (plain : reg.PlainWithin type) : reg.aliasMap type = .ok [] := by
  obtain ⟨decl, known, unlinked⟩ := plain type .refl
  exact aliasMap_of_plain known unlinked

theorem readsPlain_of_plain {memo : SynthMemo} {annot : Annot}
    (plain : (reg.isSynthesizable annot.type memo).1 = .ok false)
    (within : reg.PlainWithin annot.type) (element : Option Element) :
    reg.ReadsPlain memo annot element := by
  obtain ⟨decl, known, _⟩ := within annot.type .refl
  refine ⟨⟨annot.type, decl, element, .annot annot, [], false⟩, ?_, rfl, ?_⟩
  · simp only [viewAnnot, known, bind_apply, lift_apply, plain]
    rfl
  · intro aliases map later
    cases within.aliasMap.symm.trans map
    exact ⟨rfl, fun name => rfl⟩

/-- Where alias declarations are valid and nested types are known, and whatever was asked before: a
type is said to need alias handling exactly if it or one nested in it declares an alias, there is an
answer for every registered type, and where it is no the attributes have no aliases and views of
annotations read plainly. -/
theorem isSynthesizable_exact (valid : reg.AliasesValid) (known : reg.NestedKnown)
    (queries : List AliasQuery) (type : String) :
    ((reg.isSynthesizable type (reg.askAll queries)).1 = .ok true ↔ reg.DeclaresWithin type) ∧
      (∀ decl, reg.type type = .ok decl →
        ∃ answer, (reg.isSynthesizable type (reg.askAll queries)).1 = .ok answer) ∧
      ((reg.isSynthesizable type (reg.askAll queries)).1 = .ok false →
        reg.aliasMap type = .ok [] ∧
        (reg.recallAliasMap type (reg.isSynthesizable type (reg.askAll queries)).2).1 = .ok [] ∧
        ∀ annot element, annot.type = type →
          reg.ReadsPlain (reg.askAll queries) annot element) := by
  have fair : Fair reg (reg.askAll queries) := askAll_fair queries
  obtain ⟨sound, means⟩ := isSynthesizable_means type (reg.askAll queries) fair.sound
  rw [← aliasWithin_iff valid]
  cases asked : (reg.isSynthesizable type (reg.askAll queries)).1 with
  | error e =>
    rw [asked] at means
    have unknown := means.own valid known
    refine ⟨⟨by simp, fun declares => ?_⟩, fun decl registered => ?_, by simp⟩
    · obtain ⟨decl, registered⟩ := declares.registered
      cases unknown.symm.trans registered
    · cases unknown.symm.trans registered
  | ok answer =>
    rw [asked] at means
    cases answer with
    | true => exact ⟨⟨fun _ => means, fun _ => rfl⟩, fun _ _ => ⟨true, rfl⟩, by simp⟩
    | false =>
      refine ⟨⟨by simp, fun declares => absurd declares (PlainWithin.not_aliasWithin means)⟩,
        fun _ _ => ⟨false, rfl⟩, fun _ => ⟨means.aliasMap, ?_, ?_⟩⟩
      · rw [(reg.recallAliasMap_computes type _ sound).1]
        exact means.aliasMap
      · rintro annot element rfl
        exact readsPlain_of_plain asked means element

section

open Vocabulary

/-- Orchards hold trees and trees their orchard. A tree has a label with two proper aliases; a stone
holds another stone only. -/
def orchards : Registry :=
  base.addTypes [
    ("test.Label", {
      attrs := [textAttr "name" (pairedWith "title"), textAttr "title" (pairedWith "name")] }),
    ("test.Tree", {
      attrs := [{ name := "orchard", type := .annot "test.Orchard" },
        { name := "label", type := .annot "test.Label" }] }),
    ("test.Orchard", { attrs := [arrayAttr "trees" (.annot "test.Tree")] }),
    ("test.Stone", { attrs := [{ name := "next", type := .annot "test.Stone" }] })]

/-- Round the loop the label's aliases are found, also after the tree was asked about. -/
theorem orchards_isSynthesizable : orchards.AliasesValid ∧ orchards.NestedKnown ∧
    (orchards.isSynthesizable "test.Orchard" (orchards.askAll [.synthesizable "test.Tree"])).1 =
      .ok true ∧
    (orchards.isSynthesizable "test.Stone" (orchards.askAll [.synthesizable "test.Orchard"])).1 =
      .ok false ∧
    orchards.aliasMap "test.Stone" = .ok [] := by
  have valid : orchards.AliasesValid := aliasesValid_of_entries (by with_unfolding_all decide)
  have known : orchards.NestedKnown := nestedKnown_of_entries (by with_unfolding_all decide)
  have trees : orchards.Nests "test.Orchard" "test.Tree" :=
    ⟨_, arrayAttr "trees" (.annot "test.Tree"), rfl, .head _, rfl⟩
  have label : orchards.Nests "test.Tree" "test.Label" :=
    ⟨_, { name := "label", type := .annot "test.Label" }, rfl, .tail _ (.head _), rfl⟩
  have declares : orchards.DeclaresWithin "test.Orchard" :=
    ⟨"test.Label", _, textAttr "name" (pairedWith "title"), .tail (.single trees) label, rfl,
      .head _, rfl, rfl⟩
  have stone : (orchards.isSynthesizable "test.Stone"
      (orchards.askAll [.synthesizable "test.Orchard"])).1 = .ok false := by
    with_unfolding_all rfl
  refine ⟨valid, known, ?_, stone, ?_⟩
  · exact (isSynthesizable_exact valid known [.synthesizable "test.Tree"] _).1.2 declares
  · exact ((isSynthesizable_exact valid known [.synthesizable "test.Orchard"] _).2.2 stone).1

/-- A label with two attributes of one name, of which the second overrides an attribute of its
meta-annotation. -/
def labels : Registry :=
  base.addTypes [
    ("test.Base", { attrs := [textAttr "text"] }),
    ("test.Label", {
      metas := [⟨"test.Base", []⟩]
      attrs := [textAttr "a", textAttr "a" (overridingAttr "test.Base" "text")] })]

/-- The second attribute of a name is not looked at: its declaration is valid, but the type is said
to need no alias handling. -/
theorem labels_shadowed :
    (∀ type decl attr aim, labels.type type = .ok decl → attr ∈ decl.attrs →
      attr.aliasFor = some aim → ∃ link, labels.checkAlias type attr aim = .ok link) ∧
    labels.AliasesValid ∧ labels.NestedKnown ∧
    (∃ decl attr, labels.type "test.Label" = .ok decl ∧ attr ∈ decl.attrs ∧
      attr.aliasFor.isSome = true) ∧
    (labels.isSynthesizable "test.Label" {}).1 = .ok false := by
  have checked : ∀ entry ∈ labels.types, ∀ attr ∈ entry.2.attrs, ∀ aim ∈ attr.aliasFor,
      (labels.checkAlias entry.1 attr aim).isOk = true := by with_unfolding_all decide
  refine ⟨fun type decl attr aim known mem declares => ?_, ?_, ?_, ?_, ?_⟩
  · exact Outcome.ok_of_isOk (checked _ (mem_of_type known) attr mem aim declares)
  · exact aliasesValid_of_entries (by with_unfolding_all decide)
  · exact nestedKnown_of_entries (by with_unfolding_all decide)
  · exact ⟨_, textAttr "a" (overridingAttr "test.Base" "text"), rfl, .tail _ (.head _), rfl⟩
  · with_unfolding_all rfl

end

end Registry
end Annotations
