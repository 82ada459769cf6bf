import Annotations.Proofs.Engine.Trails
import Annotations.Proofs.Merge.StoreShown
import Annotations.Proofs.Search.InStep
import Annotations.Vocabulary.Web

/-!
Merges in two renderings. A merge in any rendering finds something, finds nothing or fails as the
merge of values as they are does, and its store shows the other's: where types, their defaults and the
annotations of the type sought are regular.
-/
namespace Annotations

open Annotations.Action SynthMemo Registry

variable {reg : Registry} {type : String}

/-- What makes merges of a type fare alike in every rendering: aliases are coherent, defaults formed,
annotations of the type regular, and the annotations that may override them name attributes alike. -/
structure Registry.Renderable (reg : Registry) (type : String) : Prop where
  coherent : reg.Coherent
  defaults : reg.DefaultsFormed
  regular : ∀ annot, reg.Gives annot → annot.type = type → annot.Regular reg
  alike : ∀ other, reg.isMetaPresent other type = true → reg.NamesAlike type other

/-- Whether an annotation gives declared attributes plain values of their declared types only. -/
def Annot.isRegular (reg : Registry) (annot : Annot) : Bool :=
  (reg.type annot.type).toOption.all fun decl => decl.attrs.all fun attr =>
    (annot.value? attr.name).all fun value => value.conformsTo attr.type && value.isPlain reg

theorem Annot.Regular.of_isRegular {annot : Annot} (distinct : reg.DistinctAttrs)
    (h : annot.isRegular reg = true) : annot.Regular reg := by
  intro decl attr value known mem own
  unfold isRegular at h
  rw [known] at h
  have each := List.all_eq_true.1 h attr mem
  rw [own] at each
  obtain ⟨conforms, plain⟩ := Bool.and_eq_true_iff.1 each
  have formed : value.Formed reg := .of_isPlain plain
  refine ⟨formed.admitted, fun _ => formed, fun _ decl' attr' known' found => ?_⟩
  cases known.symm.trans known'
  cases (attr?_of_mem (distinct _ _ known) mem).symm.trans found
  exact ⟨attr.type, rfl, conforms⟩

/-- Merges of a type fare alike in a coherent registry whose defaults are plain and of the declared
types, whose annotations of the type give such values only, and in which attributes that override by
their names alone declare one type. -/
theorem Registry.renderable_of_entries (coherent : reg.Coherent)
    (defaults : ∀ entry ∈ reg.types, ∀ attr ∈ entry.2.attrs, ∀ value ∈ attr.default?,
      value.conformsTo attr.type = true ∧ value.isPlain reg = true)
    (values : ∀ element ∈ reg.elements, ∀ annots ∈ (reg.declaredAnnots element).toOption,
      ∀ annot ∈ annots, annot.type = type → annot.isRegular reg = true)
    (names : ∀ entry ∈ reg.types, reg.isMetaPresent entry.1 type = true →
      ∀ decl ∈ (reg.type type).toOption, ∀ attr ∈ entry.2.attrs, ∀ other ∈ decl.attr? attr.name,
        attr.name ≠ valueAttr → (reg.overrideName entry.1 attr.name type).toOption = some none →
          attr.type.inmost = other.type.inmost) : reg.Renderable type where
  coherent
  defaults type decl attr value known mem own := by
    obtain ⟨conforms, plain⟩ := defaults _ (mem_of_type known) attr mem value own
    exact ⟨conforms, .of_isPlain plain⟩
  regular annot gives same := by
    obtain ⟨element, annots, declared, there⟩ := gives
    exact .of_isRegular coherent.distinct (values element (mem_elements_of_declared declared) annots
      (by rw [declared]; rfl) annot there same)
  alike other present decl attr decl' attr' known mem apart alone _ known' found :=
    names _ (mem_of_type known) present decl' (by rw [known']; rfl) attr mem attr' found apart
      (by rw [alone]; rfl)

/-- Pending attributes that show others. On an annotation type they are found only where the type
sought is a meta-annotation of it. -/
def Registry.Beside (reg : Registry) (rendering : Rendering) (type : String) (element : Element)
    (pending pending' : Pending) : Prop :=
  pending.Shows reg rendering type pending' ∧
    ∀ name, element = .annotType name → reg.isMetaPresent name type = true

/-- Merges in a rendering and of values as they are work in step. -/
theorem Search.paces_merges (search : Search) (kind : SearchKind)
    (rendering : Rendering) (h : search.reg.Renderable type) :
    search.Paces kind type (fun memo memo' => Sound search.reg memo ∧ Sound search.reg memo')
      (search.reg.Beside rendering type) (Merge.mk search.reg type rendering).processor
      (Merge.mk search.reg type .raw).processor where
  process element annot depth bears := by
    unfold Merge.processor
    dsimp only
    split
    · rename_i own
      obtain rfl : annot.type = type := by simpa using own
      have regular := h.regular annot bears.gives rfl
      exact Paired.map (retrieve_shows h.coherent h.defaults regular) fun pending pending' shows =>
        .some ⟨shows, fun name same => (same ▸ bears).metaPresent⟩
    · exact Paired.pure .none
  postProcess element annot pending pending' bears beside := by
    obtain ⟨shows, above⟩ := beside
    have present := above annot.type rfl
    refine Paired.mono (Merge.override_shows h.coherent h.defaults (h.alike annot.type present) shows)
      (fun result result' shows => ⟨shows, fun name same => ?_⟩) fun _ _ => id
    have below : search.reg.isMetaPresent name annot.type = true := (same ▸ bears).metaPresent
    exact isMetaPresent_iff.2 ((isMetaPresent_iff.1 below).trans (isMetaPresent_iff.1 present))
  move element there pending pending' plain beside := by
    refine ⟨beside.1, fun name same => ?_⟩
    subst same
    cases plain

namespace Engine

variable {engine : Engine}

/-- A merge from scratch in any rendering fares as the merge of values as they are. -/
theorem mergeAnew_shows (h : engine.reg.Renderable type) (kind : SearchKind) (element : Element)
    (rendering : Rendering) {s s' : EngineState} (hs : s.Sensible engine.reg)
    (hs' : s'.Sensible engine.reg) :
    Outcome.Meet (Option.Rel (Store.Shows rendering)) Error.SameReach
      (engine.mergeAnew ⟨kind, element, type, rendering⟩ s).1
      (engine.mergeAnew ⟨kind, element, type, .raw⟩ s').1 := by
  have run : Search.InStep engine.reg
      (fun memo memo' => Sound engine.reg memo ∧ Sound engine.reg memo')
      (engine.reg.Beside rendering type element)
      (engine.search.searchFrom kind type
        (engine.mergeOf ⟨kind, element, type, rendering⟩).processor element 0)
      (engine.search.searchFrom kind type
        (engine.mergeOf ⟨kind, element, type, .raw⟩).processor element 0) :=
    (engine.search.paces_merges kind rendering h).searchFrom engine.settings.cacheEnabled
      engine.settings.cacheEnabled element 0
  obtain ⟨meet, after⟩ := run
    { interfaces := s.caches.interfaces, events := s.events, state := s.memo }
    { interfaces := s'.caches.interfaces, events := s'.events, state := s'.memo }
    ⟨rfl, hs.interfaces, hs'.interfaces, hs.memo, hs'.memo⟩
  rw [mergeAnew_outcome, mergeAnew_outcome]
  dsimp only
  generalize engine.search.searchFrom kind type
    (engine.mergeOf ⟨kind, element, type, rendering⟩).processor element 0 _ = left at meet after ⊢
  generalize engine.search.searchFrom kind type
    (engine.mergeOf ⟨kind, element, type, .raw⟩).processor element 0 _ = right at meet after ⊢
  obtain ⟨outcome, walk⟩ := left
  obtain ⟨outcome', walk'⟩ := right
  cases meet with
  | error reach => exact .error reach
  | ok found =>
    cases found with
    | none => exact .ok .none
    | some beside =>
      have finished : engine.reg.InStep (Store.Shows rendering)
          (engine.reg.finish element rendering _) (engine.reg.finish element .raw _) :=
        finish_shows h.coherent h.defaults beside.1
      exact (finished walk.state walk'.state after.state).1.map fun store store' shows => .some shows

/-- Whatever was called before, merges in two renderings meet, and what they find shows one store of
values as they are. -/
theorem merged_meet (h : engine.reg.Renderable type) (calls calls' : List Call) (kind : SearchKind)
    (element : Element) (rendering rendering' : Rendering) :
    Outcome.Meet
      (Option.Rel fun store store' => ∃ plain, store.Shows rendering plain ∧
        store'.Shows rendering' plain) Error.SameReach
      (engine.merged ⟨kind, element, type, rendering⟩ (engine.run calls {}).2).1
      (engine.merged ⟨kind, element, type, rendering'⟩ (engine.run calls' {}).2).1 := by
  obtain ⟨s, hs, anew⟩ := engine.run_merged calls ⟨kind, element, type, rendering⟩
  obtain ⟨s', hs', anew'⟩ := engine.run_merged calls' ⟨kind, element, type, rendering'⟩
  have left := mergeAnew_shows h kind element rendering hs (EngineState.sensible_empty engine.reg)
  have right := mergeAnew_shows h kind element rendering' hs' (EngineState.sensible_empty engine.reg)
  rw [← anew, ← anew']
  generalize (engine.mergeAnew ⟨kind, element, type, rendering⟩ s).1 = one at left ⊢
  generalize (engine.mergeAnew ⟨kind, element, type, rendering'⟩ s').1 = other at right ⊢
  generalize (engine.mergeAnew ⟨kind, element, type, .raw⟩ {}).1 = plain at left right
  cases left with
  | ok found =>
    cases right with
    | ok found' =>
      cases found with
      | none =>
        cases found' with
        | none => exact .ok .none
      | some shows =>
        cases found' with
        | some shows' => exact .ok (.some ⟨_, shows, shows'⟩)
  | error reach =>
    cases right with
    | error reach' => exact .error (reach.trans reach'.symm)

/-- Whatever was called before, a merge in one rendering finds something, finds nothing or fails where
a merge in another one does, and what both find shows one store of values as they are. -/
theorem merged_alike (h : engine.reg.Renderable type) (calls calls' : List Call) (kind : SearchKind)
    (element : Element) (rendering rendering' : Rendering)
    {outcome outcome' : Except Error (Option Store)}
    (left : (engine.merged ⟨kind, element, type, rendering⟩ (engine.run calls {}).2).1 = outcome)
    (right : (engine.merged ⟨kind, element, type, rendering'⟩ (engine.run calls' {}).2).1 =
      outcome') :
    ((∃ store, outcome = .ok (some store)) ↔ ∃ store', outcome' = .ok (some store')) ∧
      (outcome = .ok none ↔ outcome' = .ok none) ∧
      ((∃ e, outcome = .error e) ↔ ∃ e', outcome' = .error e') ∧
      ∀ store store', outcome = .ok (some store) → outcome' = .ok (some store') →
        ∃ plain, store.Shows rendering plain ∧ store'.Shows rendering' plain := by
  have meet := merged_meet h calls calls' kind element rendering rendering'
  rw [left, right] at meet
  cases meet with
  | error _ => simp
  | ok found =>
    cases found with
    | none => simp
    | some shows => simpa using shows

end Engine

/-- The kinds of the items of an array in a store. -/
def Store.itemKinds (store : Store) (name : String) : Option (List String) :=
  ((store.get? name).bind Value.items?).map (·.map Value.kind)

theorem Registry.web_renderable :
    ∀ type ∈ ["web.Mapping", "web.GetMapping"], Registry.web.Renderable type := by
  have coherent : Registry.web.Coherent :=
    { distinct := distinctAttrs_of_entries (by with_unfolding_all decide)
      valid := aliasesValid_of_entries (by with_unfolding_all decide)
      pairs := pairsMutual_of_entries (by with_unfolding_all decide)
      types := aliasTypes_of_entries (by with_unfolding_all decide)
      known := nestedKnown_of_entries (by with_unfolding_all decide) }
  intro type mem
  refine renderable_of_entries coherent (by with_unfolding_all decide) ?_ ?_
  · revert type
    with_unfolding_all decide
  · revert type
    with_unfolding_all decide

/-- The mapping of a controller, merged from a composed annotation, holds a header that is a store in
one rendering and an annotation in the other. -/
theorem Engine.web_merged_alike :
    Registry.web.Renderable "web.Mapping" ∧ ∃ store store' plain,
      (Engine.web.merged ⟨.find, .classLike "app.UserController", "web.Mapping", {}⟩
        (Engine.web.run [] {}).2).1 = .ok (some store) ∧
      (Engine.web.merged ⟨.find, .classLike "app.UserController", "web.Mapping", .raw⟩
        (Engine.web.run [.isSynthesizable "web.Header"] {}).2).1 = .ok (some store') ∧
      store.itemKinds "headers" = some ["AnnotationAttributes"] ∧
      store'.itemKinds "headers" = some ["Annotation"] ∧
      store.Shows {} plain ∧ store'.Shows .raw plain := by
  have renderable := Registry.web_renderable "web.Mapping" (by simp)
  have alike := @Engine.merged_alike "web.Mapping" Engine.web renderable []
    [.isSynthesizable "web.Header"] .find (.classLike "app.UserController") {} .raw _ _ rfl rfl
  have stores : (Engine.web.merged ⟨.find, .classLike "app.UserController", "web.Mapping", {}⟩
      (Engine.web.run [] {}).2).1.toOption.join.bind (·.itemKinds "headers") =
        some ["AnnotationAttributes"] := by with_unfolding_all decide
  have annots : (Engine.web.merged ⟨.find, .classLike "app.UserController", "web.Mapping", .raw⟩
      (Engine.web.run [.isSynthesizable "web.Header"] {}).2).1.toOption.join.bind
        (·.itemKinds "headers") = some ["Annotation"] := by with_unfolding_all decide
  refine ⟨renderable, ?_⟩
  generalize (Engine.web.merged ⟨.find, .classLike "app.UserController", "web.Mapping", {}⟩ _).1 = left
    at alike stores ⊢
  generalize (Engine.web.merged ⟨.find, .classLike "app.UserController", "web.Mapping", .raw⟩ _).1 =
    right at alike annots ⊢
  match left, right with
  | .ok (some store), .ok (some store') =>
    obtain ⟨plain, shows, shows'⟩ := alike.2.2.2 store store' rfl rfl
    exact ⟨store, store', plain, rfl, rfl, stores, annots, shows, shows'⟩
  | .error _, _ => cases stores
  | .ok none, _ => cases stores
  | _, .error _ => cases annots
  | _, .ok none => cases annots

section

open Vocabulary

/-- A class with a page that holds a note. -/
def Registry.noted (types : List (String × AnnotType)) (values : Entries Value) : Registry :=
  ((base.addTypes types).addType "test.Page" {
    attrs := [{ name := "note", type := .annot "test.Note" }] }).addClass "app.Page" {
      annots := [⟨"test.Page", [("note", .annot "test.Note" values)]⟩] }

/-- Both ends of a page's link are of one type and aliases of each other. -/
def Registry.linked (type : AttrType) (default : Value) (types : List (String × AnnotType))
    (annot : Annot) : Registry :=
  ((base.addTypes types).addType "test.Page" {
    attrs := ["from", "to"].map fun name => {
      name
      type
      default? := some default
      aliasFor := pairedWith (if name = "from" then "to" else "from") } }).addClass "app.Page" {
        annots := [annot] }

/-- Merges that do not fare alike, each for one thing that makes its page not renderable, with the
rendering to compare with values as they are. -/
def Registry.uneven : List (Registry × Rendering) := [
  -- a given value and a default that are not of the declared type
  (noted [("test.Note", { attrs := [textAttr "text"] })] [("text", .long 7)], {}),
  (noted [("test.Note", { attrs := [{ textAttr "text" with default? := some (.long 7) }] })] [], {}),
  -- a conflict beside an attribute without a value, and a store that lacks what its type needs
  (noted [("test.Note", {
    attrs := [
      textAttr "text" (pairedWith "title"), textAttr "title" (pairedWith "text"),
      { name := "more", type := .text }] })]
    [("text", .text "1"), ("title", .text "2")], {}),
  (noted [
    ("test.Leaf", { attrs := [{ name := "text", type := .text }] }),
    ("test.Note", { attrs := [{ name := "leaf", type := .annot "test.Leaf" }] })]
    [("leaf", .store none none [])], {}),
  -- a nested type that is not registered and one whose aliases are not valid
  (noted [("test.Note", { attrs := [arrayAttr "more" (.annot "test.Leaf")] })] [], {}),
  (noted [
    ("test.Leaf", { attrs := [textAttr "text" (pairedWith "title")] }),
    ("test.Note", { attrs := [arrayAttr "more" (.annot "test.Leaf")] })] [], {}),
  -- two attributes of one name
  (noted [("test.Note", { attrs := [textAttr "text", { name := "text", type := .text }] })] [], {}),
  -- aliases of two attribute types
  (noted [
    ("test.Leaf", { attrs := [arrayAttr "all" (.array .text)] }),
    ("test.Note", {
      metas := [⟨"test.Leaf", []⟩]
      attrs := [
        arrayAttr "line" .text (overridingAttr "test.Leaf" "all"),
        arrayAttr "lines" (.array .text) (overridingAttr "test.Leaf" "all")] })]
    [("line", .array [.text "x"])], {}),
  -- aliases whose values are equal once they are made complete
  (noted [
    ("test.Leaf", { attrs := [textAttr "text", textAttr "title"] }),
    ("test.Note", {
      attrs := ["head", "tail"].map fun name => {
        name
        type := .annot "test.Leaf"
        default? := some (.annot "test.Leaf" [])
        aliasFor := pairedWith (if name = "head" then "tail" else "head") } })]
    [("head", .annot "test.Leaf" [("text", .text "")]),
      ("tail", .annot "test.Leaf" [("title", .text "")])], {}),
  -- a pair whose second half names the first in another type
  (noted [
    ("test.Root", { attrs := [textAttr "x"] }),
    ("test.Leaf", {
      metas := [⟨"test.Root", []⟩]
      attrs := [textAttr "x" (pairedWith "y"), textAttr "y" (overridingAttr "test.Root" "x")] }),
    ("test.Note", {
      metas := [⟨"test.Leaf", []⟩]
      attrs := [
        textAttr "a" (overridingAttr "test.Leaf" "x"), textAttr "b" (overridingAttr "test.Leaf" "y"),
        textAttr "c" (overridingAttr "test.Root" "x")] })]
    [("a", .text "1"), ("c", .text "2")], {}),
  -- a store given to one of two aliases that are annotations
  (linked (.annot "test.Leaf") (.annot "test.Leaf" [])
    [("test.Leaf", { attrs := [textAttr "text"] })]
    ⟨"test.Page", [
      ("from", .store none none [("text", .text "1")]),
      ("to", .annot "test.Leaf" [("text", .text "1")])]⟩, {}),
  -- a text given where aliases are classes, by the annotation and by a name that overrides it
  (linked .classRef (.classRef "app.Page") []
    ⟨"test.Page", [("from", .text "app.C"), ("to", .classRef "app.C")]⟩, ⟨true, true⟩),
  (linked .classRef (.classRef "app.Page") [("test.Link", {
      metas := [⟨"test.Page", [("to", .classRef "app.C")]⟩]
      attrs := [{ textAttr "from" with default? := some (.text "app.C") }] })] ⟨"test.Link", []⟩,
    ⟨true, true⟩)]

/-- Whether a get merge of the page finds something, if it does not fail. -/
def Registry.findsPage (reg : Registry) (rendering : Rendering) : Option Bool :=
  (({ reg } : Engine).getMergedWith (.classLike "app.Page") "test.Page" rendering {}).1.toOption.map
    Option.isSome

/-- A merge can find something in one rendering and nothing in another, or fail there. -/
theorem Registry.renderings_uneven :
    Registry.uneven.map (fun (reg, rendering) => (reg.findsPage rendering, reg.findsPage .raw)) = [
      (some true, some false), (some true, some false), (some false, none), (some true, some false),
      (some true, some false), (some true, none), (some false, some true), (some true, some false),
      (some true, none), (some true, none), (some true, none), (some true, none),
      (some true, none)] := by
  with_unfolding_all decide

end

end Annotations
