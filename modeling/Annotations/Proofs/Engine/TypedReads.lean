import Annotations.Proofs.Engine.Accounts
import Annotations.Proofs.Engine.CacheTransparency
import Annotations.Proofs.Engine.Trails
import Annotations.Proofs.Typed.Declared
import Annotations.Proofs.View.Materialized
import Annotations.Vocabulary.Records

/-!
Typed reads of merged annotations. Once an annotation of a schema's type is merged and all values of
its view can be read, the record can be read too: the view fits every value to its declared type, and
that is all a field of the schema asks for.
-/
namespace Annotations

open Annotations.Action SynthMemo Registry EngineState

namespace Engine

variable {engine : Engine} {kind : SearchKind} {element : Element} {type : String}
  {s s' : EngineState} {view : View} {values : Entries Value}

/-- What a view of a merge was made from. -/
theorem mergedView_found (sensible : s.Sensible engine.reg)
    (h : engine.mergedView kind element type s = (.ok (some view), s')) :
    ∃ store between, engine.merged ⟨kind, element, type, .raw⟩ s = (.ok (some store), between) ∧
      withMemo (engine.reg.viewStore store type (some element)) between = (.ok view, s') ∧
      between.Sensible engine.reg := by
  obtain ⟨found, between, merged, h⟩ := bind_eq_ok h
  have kept := merged_sensible ⟨kind, element, type, .raw⟩ s sensible
  rw [merged] at kept
  cases found with
  | none => cases h
  | some store =>
    simp only [map_eq_pure_bind] at h
    obtain ⟨view', after, made, h⟩ := bind_eq_ok h
    cases h
    exact ⟨store, between, merged, made, kept⟩

theorem mergedView_of_found {store : Store} {between : EngineState}
    (merged : engine.merged ⟨kind, element, type, .raw⟩ s = (.ok (some store), between))
    (made : withMemo (engine.reg.viewStore store type (some element)) between = (.ok view, s')) :
    engine.mergedView kind element type s = (.ok (some view), s') := by
  rw [mergedView, bind_of_ok merged]
  simp only
  rw [map_eq_pure_bind, bind_of_ok made]
  rfl

/-- A typed read reads the record from the values of the view. -/
theorem mergedAs_of_values {schema : Schema} {after : EngineState}
    (seen : engine.mergedView kind element schema.name s = (.ok (some view), s'))
    (read : withMemo (view.values engine.reg) s' = (.ok values, after)) :
    (engine.mergedAs kind element schema s).1 =
      (schema.ofStore { type := some view.name, values }).map some := by
  have stored : withMemo (view.toStore engine.reg) s' =
      (.ok { type := some view.name, values }, after) := by
    rw [View.toStore, withMemo_bind, bind_of_ok read]
    rfl
  rw [mergedAs, bind_of_ok seen]
  simp only
  rw [bind_of_ok stored]
  cases schema.ofStore { type := some view.name, values } <;> rfl

/-- Where results are kept, a merge that was found once is found at once later on. -/
theorem merged_again (keeps : engine.settings.cacheEnabled = true) {key : MergeKey}
    {found : Option Store} (h : engine.merged key s = (.ok found, s')) {later : EngineState}
    (same : later.caches = s'.caches) :
    engine.merged key later = (.ok found, later.lookedUp .merged true) := by
  suffices kept : s'.caches.merged.find? key = some found by
    rw [merged, remember, if_pos keeps]
    simp only [bind_apply, get_apply, Caches.Part.merged, same, kept]
    rfl
  rcases remember_cases keeps .merged key (engine.mergeAnew_aside key) s with
    ⟨known, kept, hit⟩ | ⟨_, after, _, ⟨e, failed⟩ | ⟨result, made⟩⟩
  · cases hit.symm.trans h
    exact kept
  · cases failed.symm.trans h
  · cases made.symm.trans h
    simp [Caches.Part.merged, Table.find?_set]

/-- Where nothing is kept and all declarations are valid, a merge comes to the same later on. -/
theorem merged_steady (valid : engine.reg.AliasesValid) (known : engine.reg.NestedKnown)
    (keeps : engine.settings.cacheEnabled ≠ true) (key : MergeKey) (hs : s.Sensible engine.reg)
    (hs' : s'.Sensible engine.reg) : (engine.merged key s).1 = (engine.merged key s').1 := by
  have anew : engine.merged key = engine.mergeAnew key := by rw [merged, remember, if_neg keeps]
  have upholds := upholds_steady valid known
  rw [anew]
  exact (upholds.merge key s hs).trans (upholds.merge key s' hs').symm

/-- Where results are kept or all declarations are valid, a view of a merge and its values are the same
once more. -/
theorem mergedView_again (sensible : s.Sensible engine.reg)
    (steady : engine.settings.cacheEnabled = true ∨
      engine.reg.AliasesValid ∧ engine.reg.NestedKnown) {after : EngineState}
    (seen : engine.mergedView kind element type s = (.ok (some view), s'))
    (read : withMemo (view.values engine.reg) s' = (.ok values, after)) :
    ∃ again last, engine.mergedView kind element type after = (.ok (some view), again) ∧
      withMemo (view.values engine.reg) again = (.ok values, last) := by
  obtain ⟨store, between, merged, made, kept⟩ := mergedView_found sensible seen
  have views := engine.reg.asked_replays.viewStore store type (some element)
  have reads := engine.reg.asked_replays.values view
  obtain ⟨viewed, toView, same⟩ := withMemo_ok made
  obtain ⟨valued, toEnd, same'⟩ := withMemo_ok read
  have sound : Sound engine.reg s'.memo := toView ▸ views.keeps _ kept.memo
  have sound' : Sound engine.reg after.memo := toEnd ▸ reads.keeps _ sound
  suffices steps : ∃ between', engine.merged ⟨kind, element, type, .raw⟩ after =
        (.ok (some store), between') ∧
      (engine.reg.viewStore store type (some element) between'.memo).1 = .ok view ∧
      (view.values engine.reg
        (engine.reg.viewStore store type (some element) between'.memo).2).1 = .ok values by
    obtain ⟨between', merged', viewed', valued'⟩ := steps
    exact ⟨_, _, mergedView_of_found merged' (Prod.ext viewed' rfl), Prod.ext valued' rfl⟩
  by_cases keeps : engine.settings.cacheEnabled = true
  · -- whatever was found out for the first reading is there for the second
    have within : s'.memo.Within after.memo := toEnd ▸ reads.within _ sound
    have viewed' := views.ok between.memo view kept.memo viewed after.memo sound' (toView ▸ within)
    refine ⟨_, merged_again keeps merged (same'.trans same), viewed'.1, ?_⟩
    refine (reads.ok s'.memo values sound valued _ (views.keeps after.memo sound') ?_).1
    rw [toEnd]
    exact views.within after.memo sound'
  · obtain ⟨valid, known⟩ := steady.resolve_left keeps
    have sensible' : after.Sensible engine.reg :=
      ⟨sound', by rw [same', same]; exact kept.interfaces⟩
    have merged' := merged_steady valid known keeps ⟨kind, element, type, .raw⟩ sensible sensible'
    rw [merged] at merged'
    have asked := asked_alike valid known
    obtain ⟨viewed', tied⟩ := (asked.viewStore store type (some element)).outcome
      ⟨kept.memo, (merged_sensible ⟨kind, element, type, .raw⟩ after sensible').memo⟩
    have valued' := ((asked.values view).outcome ⟨sound, tied.2⟩).1
    exact ⟨(engine.merged ⟨kind, element, type, .raw⟩ after).2, Prod.ext merged'.symm rfl,
      viewed'.symm.trans viewed, valued'.symm.trans valued⟩

/-- Where each field of a schema and of those nested in it is declared with the type of its kind, a
typed read of a merged annotation gives a record once the annotation is merged and all values of its
view can be read: in place of both, and after both where results are kept or all declarations are
valid. -/
theorem mergedAs_of_readable {schema : Schema}
    (declared : (Kind.record schema).DeclaredIn engine.reg) (calls : List Call)
    {after : EngineState}
    (seen : engine.mergedView kind element schema.name (engine.run calls {}).2 =
      (.ok (some view), s))
    (read : withMemo (view.values engine.reg) s = (.ok values, after)) :
    ∃ record, (engine.mergedAs kind element schema (engine.run calls {}).2).1 = .ok (some record) ∧
      (engine.settings.cacheEnabled = true ∨ engine.reg.AliasesValid ∧ engine.reg.NestedKnown →
        (engine.mergedAs kind element schema after).1 = .ok (some record)) := by
  have sensible := engine.run_sensible calls
  obtain ⟨store, between, merged, made, kept⟩ := mergedView_found sensible seen
  have of : view.Of engine.reg (.store store) schema.name :=
    viewStore_of ⟨_, kept.memo, (withMemo_ok made).1⟩
  have sound' : Sound engine.reg s.memo :=
    (withMemo_ok made).2.1 ▸ engine.reg.asked_keeps.viewStore _ _ _ _ kept.memo
  have typed : (Value.annot schema.name values).WellTyped engine.reg (.annot schema.name) :=
    (View.values_whole of ⟨_, sound', (withMemo_ok read).1⟩).wellTyped (by simp [Value.conformsTo])
  obtain ⟨record, fits⟩ := Kind.read_of_wellTyped declared rfl typed
  have fits : schema.ofStore { type := some view.name, values } = .ok record := by
    rw [of.named]
    exact Outcome.ok_of_toOption fits
  refine ⟨record, by rw [mergedAs_of_values seen read, fits]; rfl, fun steady => ?_⟩
  obtain ⟨again, last, seen', read'⟩ := mergedView_again sensible steady seen read
  rw [mergedAs_of_values seen' read', fits]
  rfl

/-- The sample schemas, and a class with a path and a single header on it. -/
def users : Engine where
  reg := (Registry.base.addTypes Records.types).addClass "app.Users" {
    annots := [⟨"typed.Get", [
      ("path", .text "/users"), ("headers", .annot "typed.Header" [("name", .text "Accept")])]⟩] }

theorem users_mapping_declared : (Kind.record Records.mapping).DeclaredIn users.reg := by
  have text {plain : Kind → Prop} {each : Schema → Prop} (own : plain .text) :
      Kind.text.Made plain each := .plain rfl own
  apply Kind.declaredIn_of_registered
  · have header : (Kind.record Records.header).Distinct := by
      refine .record (by decide) ?_
      simp only [Records.header, List.forall_mem_cons]
      exact ⟨text trivial, text trivial, by simp⟩
    refine .record (by decide) ?_
    simp only [Records.mapping, List.forall_mem_cons]
    exact ⟨text trivial, text trivial, text trivial, .list header, by simp⟩
  · have header : (Kind.record Records.header).Made (·.isExact = true) fun schema =>
        ∃ decl, schema.annotType? = some decl ∧ users.reg.type schema.name = .ok decl := by
      refine .record ⟨_, rfl, by with_unfolding_all rfl⟩ ?_
      simp only [Records.header, List.forall_mem_cons]
      exact ⟨text rfl, text rfl, by simp⟩
    refine .record ⟨_, rfl, by with_unfolding_all rfl⟩ ?_
    simp only [Records.mapping, List.forall_mem_cons]
    exact ⟨text rfl, text rfl, text rfl, .list header, by simp⟩

/-- The single header is read as a list of records, before and after the view it is read from. -/
theorem users_mergedAs_of_readable :
    ∃ view s values after, users.mergedView .find (.classLike "app.Users") "typed.Mapping"
        (users.run [.isSynthesizable "typed.Get"] {}).2 = (.ok (some view), s) ∧
      withMemo (view.values users.reg) s = (.ok values, after) ∧
      ∃ record, (users.mergedAs .find (.classLike "app.Users") Records.mapping
          (users.run [.isSynthesizable "typed.Get"] {}).2).1 = .ok (some record) ∧
        (users.mergedAs .find (.classLike "app.Users") Records.mapping after).1 =
          .ok (some record) := by
  let start := (users.run [.isSynthesizable "typed.Get"] {}).2
  let ends := users.mergedView .find (.classLike "app.Users") "typed.Mapping" start
  have readable : ((ends.1.toOption.join).bind fun view =>
      (withMemo (view.values users.reg) ends.2).1.toOption).isSome = true := by
    with_unfolding_all decide
  obtain ⟨values, readable⟩ := Option.isSome_iff_exists.1 readable
  obtain ⟨view, seen, read⟩ := Option.bind_eq_some_iff.1 readable
  have seen : ends = (.ok (some view), ends.2) :=
    Prod.ext (Outcome.ok_of_toOption (Option.join_eq_some_iff.1 seen)) rfl
  have read : withMemo (view.values users.reg) ends.2 =
      (.ok values, (withMemo (view.values users.reg) ends.2).2) :=
    Prod.ext (Outcome.ok_of_toOption read) rfl
  obtain ⟨record, first, later⟩ :=
    mergedAs_of_readable users_mapping_declared [.isSynthesizable "typed.Get"] seen read
  exact ⟨view, ends.2, values, _, seen, read, record, first, later (.inl rfl)⟩

end Engine
end Annotations
