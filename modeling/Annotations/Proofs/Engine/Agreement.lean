import Annotations.Proofs.Engine.Trails
import Annotations.Proofs.Merge.Agreement
import Annotations.Vocabulary.Web

/-!
A merge of one annotation and a view of it agree on conflicts, but for two cases: the merge compares
values that are rendered, and it leaves stores as they are. Where a type has two attributes of one
name, either may conflict alone.
-/
namespace Annotations

open Annotations.Action SynthMemo Registry

variable {engine : Engine} {element : Element} {annot : Annot} {place : Option Element}
  {decl : AnnotType} {view : View}

/-- Where the store of an annotation is made, reading a view of it conflicts only over two values of
an alias group that differ before they are rendered and not after, or over a store that the picked
value holds. Where all of the view can be read, making the store does not conflict. -/
theorem Engine.views_agree_on_conflicts (matched : engine.reg.PairsMatched)
    (calls calls' : List Call) (known : engine.reg.type annot.type = .ok decl)
    (distinct : (decl.attrs.map (·.name)).Nodup)
    (seen : (engine.synthesizeAnnot (some annot) place (engine.run calls {}).2).1 =
      .ok (some view)) :
    (∀ store, (engine.annotAttributes element annot .raw (engine.run calls' {}).2).1 = .ok store →
      ∀ memo name e, Sound engine.reg memo → (view.attr engine.reg name memo).1 = .error e →
        e.isConflict = true → ∃ attr, decl.attr? name = some attr ∧
          (engine.reg.ApartUnrendered (engine.reg.render element .raw) annot decl
            (aliasGroup view.aliases name) ∨ view.PicksStore engine.reg attr e)) ∧
    ∀ memo values, Sound engine.reg memo → (view.values engine.reg memo).1 = .ok values →
      ∀ e, (engine.annotAttributes element annot .raw (engine.run calls' {}).2).1 = .error e →
        e.isConflict = false := by
  have memo' := (engine.run_sensible calls').memo
  have viewed : Yields (Sound engine.reg) (engine.reg.viewAnnot annot place) (.ok view) := by
    have made : Yields (EngineState.Sensible engine.reg)
        (engine.synthesizeAnnot (some annot) place) (.ok (some view)) :=
      ⟨_, engine.run_sensible calls, seen⟩
    obtain ⟨_, ⟨s, sensible, made⟩, ⟨⟩⟩ := made.map_ok
    exact ⟨s.memo, sensible.memo, made⟩
  have of := viewAnnot_of viewed
  cases of.type.symm.trans known
  refine ⟨fun store made memo'' name e sound failed conflict => ?_,
    fun memo'' values sound read e failed => ?_⟩
  · obtain ⟨attr, found, cause⟩ :=
      View.attr_conflict conflict distinct of matched ⟨_, memo', made⟩ ⟨_, sound, failed⟩
    obtain ⟨_, rfl⟩ := mem_of_attr? found
    exact ⟨attr, found, cause⟩
  · by_contra conflict
    exact View.values_calm (by simpa using conflict) distinct of ⟨_, sound, read⟩ ⟨_, memo', failed⟩

section

open Vocabulary

/-- Both halves of a pair hold notes, by default one that says something of its own. -/
def Registry.headed : Registry :=
  (base.addTypes [
    ("test.Note", { attrs := [{ textAttr "text" with default? := some (.text "d") }] }),
    ("test.Page", {
      attrs := ["head", "title"].map fun name => {
        name
        type := .annot "test.Note"
        default? := some (.annot "test.Note" [("text", .text "z")])
        aliasFor := pairedWith (if name = "head" then "title" else "head") }
    })]).addClass "app.Page" {}

/-- A page with a map, both halves of whose pair can be given. -/
def Registry.mapped : Registry :=
  (base.addTypes [
    ("test.Map", {
      attrs := [textAttr "value" (pairedWith "path"), textAttr "path" (pairedWith "value")] }),
    ("test.Page", { attrs := [{ name := "map", type := .annot "test.Map" }] })]).addClass
    "app.Page" {}

/-- An attribute that is declared twice, with different defaults, stands in a pair. -/
def Registry.twofold : Registry :=
  (base.addTypes [
    ("test.Page", {
      attrs := [("x", "y", "1"), ("y", "x", "1"), ("x", "y", "2")].map fun (name, other, text) =>
        { textAttr name (pairedWith other) with default? := some (.text text) }
    })]).addClass "app.Page" {}

end

namespace Engine

/-- The class of pages. -/
def pages : Element := .classLike "app.Page"

/-- Makes the store of a page by itself. -/
def storePage (reg : Registry) (values : Entries Value) : Except Error Store :=
  (({ reg } : Engine).annotAttributes pages ⟨"test.Page", values⟩ .raw {}).1

/-- A view of a page. -/
def viewPage (reg : Registry) (values : Entries Value) : Except Error (Option View) :=
  (({ reg } : Engine).synthesizeAnnot (some ⟨"test.Page", values⟩) (some pages) {}).1

/-- Whether reading fails for a conflict. -/
def conflicts {α : Type} : Except Error α → Bool
  | .ok _ => false
  | .error e => e.isConflict

/-- Whether an attribute of a view of a page cannot be read for a conflict. -/
def viewConflicts (reg : Registry) (values : Entries Value) (name : String) : Bool :=
  match viewPage reg values with
  | .ok (some view) => conflicts (view.attr reg name {}).1
  | _ => false

/-- Whether all of a view of a page can be read. -/
def viewReads (reg : Registry) (values : Entries Value) : Bool :=
  match viewPage reg values with
  | .ok (some view) => (view.values reg {}).1.isOk
  | _ => false

/-- Two notes that are rendered alike, and nothing but the one says something by itself. -/
def alikeNotes : Entries Value :=
  [("head", .annot "test.Note" []), ("title", .annot "test.Note" [("text", .text "d")])]

/-- A store with a value for either half of a pair. -/
def rivalStore : Entries Value :=
  [("map", .store (some "test.Map") none [("value", .text "1"), ("path", .text "2")])]

/-- Only the view conflicts over notes that are rendered alike and over a store that stands for an
annotation; of two pages whose attribute is declared twice, only the store of one and only the view
of the other conflict. -/
theorem conflicts_of_one_reading :
    ((Registry.headed.AliasesValid ∧ Registry.headed.PairsMutual ∧ Registry.headed.NestedKnown) ∧
      (storePage .headed alikeNotes).isOk = true ∧ viewConflicts .headed alikeNotes "head" = true) ∧
    ((Registry.mapped.AliasesValid ∧ Registry.mapped.PairsMutual ∧ Registry.mapped.NestedKnown) ∧
      (storePage .mapped rivalStore).isOk = true ∧ viewConflicts .mapped rivalStore "map" = true) ∧
    (Registry.twofold.AliasesValid ∧ Registry.twofold.PairsMutual ∧ Registry.twofold.NestedKnown) ∧
      (viewReads .twofold [("x", .text "1"), ("y", .text "9")] = true ∧
        conflicts (storePage .twofold [("x", .text "1"), ("y", .text "9")]) = true) ∧
      (storePage .twofold [("x", .text "2"), ("y", .text "9")]).isOk = true ∧
        viewConflicts .twofold [("x", .text "2"), ("y", .text "9")] "x" = true := by
  refine ⟨⟨⟨aliasesValid_of_entries ?_, pairsMutual_of_entries ?_, nestedKnown_of_entries ?_⟩, ?_, ?_⟩,
    ⟨⟨aliasesValid_of_entries ?_, pairsMutual_of_entries ?_, nestedKnown_of_entries ?_⟩, ?_, ?_⟩,
    ⟨aliasesValid_of_entries ?_, pairsMutual_of_entries ?_, nestedKnown_of_entries ?_⟩,
    ⟨?_, ?_⟩, ?_, ?_⟩ <;> with_unfolding_all decide

/-- The page with two notes has its store made, and its view conflicts over one of the two causes. -/
theorem headed_agree_on_conflicts :
    Registry.headed.PairsMatched ∧ (storePage .headed alikeNotes).isOk = true ∧
      ∃ view e, viewPage .headed alikeNotes = .ok (some view) ∧
        (view.attr .headed "head" {}).1 = .error e ∧ e.isConflict = true ∧
        ∃ decl attr, Registry.headed.type "test.Page" = .ok decl ∧ decl.attr? "head" = some attr ∧
          (Registry.headed.ApartUnrendered (Registry.headed.render pages .raw)
            ⟨"test.Page", alikeNotes⟩ decl (aliasGroup view.aliases "head") ∨
          view.PicksStore .headed attr e) := by
  have distinct : Registry.headed.DistinctAttrs :=
    distinctAttrs_of_entries (by with_unfolding_all decide)
  have matched : Registry.headed.PairsMatched :=
    PairsMutual.matched (pairsMutual_of_entries (by with_unfolding_all decide)) distinct
  have stored : (storePage .headed alikeNotes).isOk = true := by with_unfolding_all decide
  have failed : viewConflicts .headed alikeNotes "head" = true := by with_unfolding_all decide
  have declared : (Registry.headed.type "test.Page").isOk = true := by with_unfolding_all decide
  obtain ⟨decl, known⟩ := Outcome.ok_of_isOk declared
  obtain ⟨store, made⟩ := Outcome.ok_of_isOk stored
  unfold viewConflicts at failed
  split at failed
  · rename_i view seen
    cases read : (view.attr .headed "head" {}).1 with
    | ok _ =>
      rw [read] at failed
      cases failed
    | error e =>
      rw [read] at failed
      obtain ⟨attr, found, cause⟩ := (@views_agree_on_conflicts { reg := .headed } pages
        ⟨"test.Page", alikeNotes⟩ (some pages) decl view matched [] [] known
        (distinct _ _ known) seen).1 store made {} "head" e sound_empty read failed
      exact ⟨matched, stored, view, e, seen, read, failed, decl, attr, known, found, cause⟩
  · cases failed

end Engine
end Annotations
