import Annotations.Proofs.Engine.AliasConsistency
import Annotations.Proofs.Merge.Drawn
import Annotations.Proofs.Merge.Rereading
import Annotations.Vocabulary.Web

/-!
Merging and reading again: over an orderly registry, a raw merge whose values conform to their declared
types and hold no stores is read as an annotation whose attributes make the same store.
-/
namespace Annotations

open Annotations.Action SynthMemo Registry

variable {reg : Registry}

namespace Value

mutual

/-- Whether a value holds no store. -/
def storeless : Value → Bool
  | .store _ _ _ => false
  | .array items => itemsStoreless items
  | _ => true

def itemsStoreless : List Value → Bool
  | [] => true
  | item :: rest => storeless item && itemsStoreless rest

end

theorem itemsStoreless_iff {items : List Value} :
    itemsStoreless items = true ↔ ∀ item ∈ items, item.storeless = true := by
  induction items with
  | nil => simp [itemsStoreless]
  | cons item rest ih => rw [itemsStoreless, Bool.and_eq_true, ih, List.forall_mem_cons]

theorem storeless_of_holds {value inner : Value} (h : value.storeless = true)
    (held : value.Holds inner) : inner.storeless = true := by
  induction held with
  | here => exact h
  | item mem _ ih =>
    rw [storeless] at h
    exact ih (itemsStoreless_iff.1 h _ mem)

end Value

/-- Whether the values of a store conform to the declared types and hold no stores. -/
def Store.fits (store : Store) (decl : AnnotType) : Bool :=
  (store.values.all fun entry => entry.2.storeless) &&
    decl.attrs.all fun attr => (store.get? attr.name).all fun value => value.conformsTo attr.type

theorem Store.conforms_of_fits (store : Store) {decl : AnnotType} (h : store.fits decl = true) :
    ∀ attr ∈ decl.attrs, ∀ value, store.get? attr.name = some value →
      value.conformsTo attr.type = true := by
  intro attr mem value own
  have each := List.all_eq_true.1 (Bool.and_eq_true_iff.1 h).2 attr mem
  rw [own] at each
  exact each

theorem Store.flat_of_fits (store : Store) {decl : AnnotType} (h : store.fits decl = true) :
    ∀ name value, store.get? name = some value → ∀ given shown values,
      ¬ value.Holds (.store given shown values) := by
  intro name value own given shown values held
  have each := List.all_eq_true.1 (Bool.and_eq_true_iff.1 h).1 _ (Entries.mem_of_get? own)
  cases Value.storeless_of_holds each held

/-- Over an orderly registry, the store of pending attributes drawn from rendered values is resolved,
and so are its values, if these conform to their declared types and hold no stores. -/
theorem Registry.finish_complete (orderly : reg.Orderly) {element : Element} {decl : AnnotType}
    {pending : Pending} {store : Store} (filled : pending.Filled reg)
    (drawn : pending.Drawn reg .raw decl)
    (h : Yields (Sound reg) (reg.finish element .raw pending) (.ok store))
    (fits : store.fits decl = true) :
    (∃ groups, Source.Resolved reg pending.type decl groups (.store store)) ∧
      ∀ name value, store.get? name = some value → value.Resolved reg := by
  have keeps := reg.asked_keeps.render element .raw
  obtain ⟨full, closed⟩ := finish_drawn filled drawn h
  obtain ⟨groups, mapped, _⟩ := finishWith_finishes keeps filled.distinct h
  have consistent := finishWith_consistent keeps orderly.distinct orderly.pairs render_same filled h
  refine ⟨⟨groups, ⟨drawn.known, mapped, fun name attr found => ?full, fun name absent => ?closed⟩,
    fun a b there => ?aliases⟩, fun name value held => ?inside⟩
  case full =>
    obtain ⟨mem, rfl⟩ := mem_of_attr? found
    obtain ⟨value, held⟩ := full attr mem
    exact ⟨value, held, store.conforms_of_fits fits attr mem value held⟩
  case closed =>
    change store.get? name = none
    rw [Option.eq_none_iff_forall_ne_some]
    intro value held
    obtain ⟨attr, found⟩ := attr?_of_name (closed name value held).1
    cases absent.symm.trans found
  case aliases =>
    obtain ⟨_, map⟩ := aliasMapOf_aliasMap mapped
    have here : a ∈ listed groups b :=
      (List.mem_cons.1 ((orderly.mem_aliasGroup_iff map (.tail _ there)).1 (.head _))).resolve_left
        (map.partner there).1.symm
    obtain ⟨left, right, own, theirs, same⟩ := consistent groups mapped a b there here
    change Value.sameOption (store.get? a) (store.get? b) = true
    rw [own, theirs]
    exact same
  case inside =>
    obtain ⟨element, given, made⟩ := (closed name value held).2
    exact render_raw_resolved orderly.aligned (store.flat_of_fits fits name value held) made

namespace Engine

variable {engine : Engine}

/-- A raw merge of either kind, whatever was called before, can be read as an annotation, and what is
read makes a store equal to it. -/
theorem merged_round_trip (orderly : engine.reg.Orderly) (calls : List Call) (element : Element)
    (type : String) (store : Store)
    (found : (engine.getMergedWith element type .raw (engine.run calls {}).2).1 = .ok (some store) ∨
      (engine.findMergedWith element type .raw (engine.run calls {}).2).1 = .ok (some store))
    (fits : ∀ decl, engine.reg.type type = .ok decl → store.fits decl = true) :
    ∃ view, engine.synthesize store type (some element) = .ok view ∧
      ∀ memo, Sound engine.reg memo →
        ∃ again, (view.toStore engine.reg memo).1 = .ok again ∧ again.same store = true := by
  obtain ⟨kind, h⟩ : ∃ kind,
      (engine.merged ⟨kind, element, type, .raw⟩ (engine.run calls {}).2).1 = .ok (some store) := by
    rcases found with h | h
    · exact ⟨.get, h⟩
    · exact ⟨.find, h⟩
  obtain ⟨s, sensible, anew⟩ := engine.run_merged calls ⟨kind, element, type, .raw⟩
  obtain ⟨_, pending, builds, finished⟩ := mergeAnew_found sensible (anew.trans h)
  obtain ⟨same, filled⟩ := (engine.mergeOf _).builds_filled orderly.distinct builds
  obtain ⟨decl, drawn⟩ := Merge.builds_drawn builds
  have same : pending.type = type := same
  have known := drawn.known
  rw [same] at known
  obtain ⟨⟨groups, complete⟩, whole⟩ :=
    finish_complete orderly filled drawn finished (fits decl known)
  rw [same] at complete
  obtain ⟨view, synthesized, of, _⟩ := @viewStore_ok engine.reg store type (some element) _ _
    complete.known complete.mapped {} sound_empty
  cases of.type.symm.trans complete.known
  cases of.aliases.symm.trans complete.mapped
  refine ⟨view, synthesized, fun memo sound => ?_⟩
  obtain ⟨again, read, equal, _⟩ := View.toStore_again orderly of complete whole memo sound
  exact ⟨again, read, equal⟩

end Engine

/-- No default has an annotation of the type that declares it inside, given or by default. -/
def Registry.DefaultsEnd (reg : Registry) : Prop :=
  ∀ type decl attr value source, reg.type type = .ok decl → attr ∈ decl.attrs →
    attr.default? = some value → ¬ reg.Inside type source value

/-- An annotation of a type that gives nothing. -/
def Value.bare (type : String) : Value → Bool
  | .annot given [] => given == type
  | _ => false

/-- Defaults end where all are texts but for bare annotations of one type, which declares texts. -/
theorem Registry.defaultsEnd_of_bare {leaf : String}
    (h : ∀ entry ∈ reg.types, ∀ attr ∈ entry.2.attrs, ∀ value ∈ attr.default?,
      value.text?.isSome = true ∨ value.bare leaf = true ∧ entry.1 ≠ leaf) : reg.DefaultsEnd := by
  intro type decl attr value source known mem own inside
  rcases h _ (mem_of_type known) attr mem value own with isText | ⟨bare, apart⟩
  · cases value with
    | text content => exact not_inside_text inside
    | _ => cases isText
  · cases value with
    | annot given values =>
      cases values with
      | nil =>
        have named : given = leaf := by simpa [Value.bare] using bare
        cases inside with
        | here stands =>
          cases stands
          exact apart named
        | given stands given' _ =>
          cases stands
          cases given'
        | @default _ inner _ _ _ _ stands known' mem' own' inside =>
          cases stands
          rcases h _ (mem_of_type known') _ mem' _ own' with isText | ⟨_, apart'⟩
          · cases inner with
            | text content => exact not_inside_text inside
            | _ => cases isText
          · exact apart' named
      | cons _ _ => cases bare
    | _ => cases bare

section

open Vocabulary

/-- An attribute that holds a note. -/
def noteAttr (name : String) (aliasFor : Option AliasFor := none) : Attr :=
  { name, type := .annot "test.Note", default? := some (.annot "test.Note" []), aliasFor }

/-- Two types of the built-in space are meta-present on each other, and one of them has an attribute
whose chain comes back to a pair beside it: it lists both halves, and they do not list it. -/
def Registry.looped : Registry :=
  (base.addTypes [
    ("test.Note", { attrs := [{ textAttr "text" with default? := some (.text "d") }] }),
    ("stele.meta.U", {
      metas := [⟨"stele.meta.T", []⟩]
      attrs := [noteAttr "z" (overridingAttr "stele.meta.T" "a")] }),
    ("stele.meta.T", {
      metas := [⟨"stele.meta.U", []⟩]
      attrs := [
        noteAttr "a" (pairedWith "b"), noteAttr "b" (pairedWith "a"),
        noteAttr "c" (overridingAttr "stele.meta.U" "z")] }),
    ("app.X", { attrs := [{ name := "n", type := .annot "stele.meta.T" }] })]).addClass "app.C" {
    annots := [⟨"app.X", [
      ("n", .annot "stele.meta.T" [("c", .annot "test.Note" [("text", .text "1")])])]⟩] }

end

namespace Engine

/-- The store merged over the looped types cannot be read as an annotation again. -/
theorem looped_not_reread :
    (Registry.looped.DistinctAttrs ∧ Registry.looped.AliasesValid ∧ Registry.looped.PairsMutual ∧
      Registry.looped.AliasTypes ∧ (∀ entry ∈ Registry.looped.types,
        ({} : Settings).isBuiltin entry.1 = false →
        Registry.looped.isMetaPresent entry.1 entry.1 = false) ∧
      Registry.looped.NestedKnown ∧ Registry.looped.DefaultsEnd) ∧
    ∃ store view, (({ reg := .looped } : Engine).getMergedWith (.classLike "app.C") "app.X" .raw
        {}).1 = .ok (some store) ∧
      (∀ decl, Registry.looped.type "app.X" = .ok decl → store.fits decl = true) ∧
      ({ reg := .looped } : Engine).synthesize store "app.X" (some (.classLike "app.C")) = .ok view ∧
      (view.toStore .looped {}).1 = .error (.attributeConflict "stele.meta.T" "class app.C" "c" "a"
        "@test.Note(text=1)" "@test.Note(text=d)") := by
  refine ⟨⟨distinctAttrs_of_entries ?_, aliasesValid_of_entries ?_, pairsMutual_of_entries ?_,
    aliasTypes_of_entries ?_, ?_, nestedKnown_of_entries ?_,
    @defaultsEnd_of_bare _ "test.Note" ?_⟩, ?reread⟩
  case reread =>
    have reads : ((({ reg := .looped } : Engine).getMergedWith (.classLike "app.C") "app.X" .raw
        {}).1.toOption.join.map fun store =>
          ((Registry.looped.type "app.X").toOption.all store.fits,
            (({ reg := .looped } : Engine).synthesize store "app.X"
              (some (.classLike "app.C"))).toOption.map fun view =>
                (view.toStore .looped {}).1.map fun _ => ())) =
        some (true, some (.error (.attributeConflict "stele.meta.T" "class app.C" "c" "a"
          "@test.Note(text=1)" "@test.Note(text=d)"))) := by with_unfolding_all decide
    generalize (({ reg := .looped } : Engine).getMergedWith (.classLike "app.C") "app.X" .raw {}).1 =
      found at reads ⊢
    match found with
    | .error _ => cases reads
    | .ok none => cases reads
    | .ok (some store) =>
      obtain ⟨fits, read⟩ := Prod.mk.inj (Option.some.inj reads)
      obtain ⟨view, synthesized, failed⟩ := Option.map_eq_some_iff.1 read
      refine ⟨store, view, rfl, fun decl known => ?_, Outcome.ok_of_toOption synthesized,
        Outcome.error_of_map failed⟩
      rw [known] at fits
      exact fits
  all_goals with_unfolding_all decide

/-- The mapping of a controller, merged from a composed annotation with a header nested in it, is read
as an annotation and makes the same store. -/
theorem web_merged_round_trip :
    Registry.web.Orderly ∧ ∃ store view,
      (Engine.web.getMergedWith (.classLike "app.UserController") "web.Mapping" .raw
        (Engine.web.run [.isSynthesizable "web.Header"] {}).2).1 = .ok (some store) ∧
      (store.get? "headers").any (fun value => value.items?.any fun items => items.length = 1) = true ∧
      Engine.web.synthesize store "web.Mapping" (some (.classLike "app.UserController")) = .ok view ∧
      ∃ again, (view.toStore .web {}).1 = .ok again ∧ again.same store = true := by
  have orderly : Registry.web.Orderly :=
    { distinct := distinctAttrs_of_entries (by with_unfolding_all decide)
      valid := aliasesValid_of_entries (by with_unfolding_all decide)
      pairs := pairsMutual_of_entries (by with_unfolding_all decide)
      types := aliasTypes_of_entries (by with_unfolding_all decide)
      apart := aliasedApart_of_entries (by with_unfolding_all decide)
      known := nestedKnown_of_entries (by with_unfolding_all decide) }
  have all := @merged_round_trip Engine.web orderly [.isSynthesizable "web.Header"]
    (.classLike "app.UserController") "web.Mapping"
  have held : ((Engine.web.getMergedWith (.classLike "app.UserController") "web.Mapping" .raw
      (Engine.web.run [.isSynthesizable "web.Header"] {}).2).1.toOption.join.map fun store =>
        ((Registry.web.type "web.Mapping").toOption.all store.fits,
          (store.get? "headers").any fun value => value.items?.any fun items => items.length = 1)) =
      some (true, true) := by with_unfolding_all decide
  refine ⟨orderly, ?_⟩
  generalize (Engine.web.getMergedWith (.classLike "app.UserController") "web.Mapping" .raw _).1 =
    found at all held ⊢
  match found with
  | .error _ => cases held
  | .ok none => cases held
  | .ok (some store) =>
    obtain ⟨fits, headers⟩ := Prod.mk.inj (Option.some.inj held)
    obtain ⟨view, synthesized, again⟩ := all store (.inl rfl) fun decl known => by
      change (Registry.web.type "web.Mapping").toOption.all store.fits = true at fits
      rw [show Registry.web.type "web.Mapping" = .ok decl from known] at fits
      exact fits
    exact ⟨store, view, rfl, headers, synthesized, again {} sound_empty⟩

end Engine
end Annotations
