import Annotations.Proofs.Merge.Resolvers

/-!
Rendering a formed value in any way shows what becomes of it where it is rendered as it is: the values
that stores are compared by and those that views are compared by differ together, at any depth.
-/
namespace Annotations

open Annotations.Action SynthMemo Registry
open Value (same_refl same_annot_iff same_store_iff)

variable {reg : Registry} {rendering : Rendering} {element : Element} {bound : Nat} {annot : Annot}
  {value value' : Value}

namespace Rendering

theorem renderNested_stores (stores : rendering.nestedAsStores = true) (annot : Annot) :
    rendering.renderNested reg element (bound + 1) annot =
      Store.toValue <$> reg.storeWith (reg.renderAt element rendering bound) element annot := by
  rw [map_eq_pure_bind, storeWith, bind_assoc, renderNested, if_pos stores]
  rfl

theorem renderNested_annots (annots : rendering.nestedAsStores = false) (annot : Annot) :
    rendering.renderNested reg element bound annot =
      Rendering.raw.renderNested reg element bound annot := by
  cases bound with
  | zero => rfl
  | succ bound =>
    rw [renderNested, renderNested, if_neg (by simp [annots]), if_neg (by simp [raw])]

end Rendering

/-- An annotation of a type in order is not made complete only where a view of it cannot be read. -/
theorem Registry.Coherent.materialize_error (coherent : reg.Coherent) {decl : AnnotType}
    {groups : Entries (List String)} (known : reg.type annot.type = .ok decl)
    (mapped : reg.aliasMap annot.type = .ok groups) {e : Error}
    (h : Yields (Sound reg)
      (reg.materialize (some element) (bound + 1) (.annot annot) annot.type) (.error e)) :
    ∃ view : View, view.Of reg (.annot annot) annot.type ∧
      Yields (Sound reg) (view.valuesWith fun _ => reg.materialize (some element) bound)
        (.error e) := by
  rw [materialize_succ] at h
  rcases h.bind_error (reg.asked_keeps.viewSource _ _ _) with failed | ⟨view, seen, h⟩
  · exact absurd failed (viewAnnot_ok coherent.valid coherent.known known mapped).not_error
  · rcases h.bind_error (reg.asked_keeps.valuesWith
      (fun _ => reg.asked_keeps.materialize (some element) bound) view) with failed | ⟨_, _, h⟩
    · exact ⟨view, viewSource_of seen, failed⟩
    · cases h.pure

namespace Rendering

variable (coherent : reg.Coherent) (defaults : reg.DefaultsFormed)

include coherent defaults

/-- One level of nesting: if what stands inside an annotation is shown, so is the annotation. -/
theorem renderNested_step (stores : rendering.nestedAsStores = true)
    (inner : NestShows reg rendering (rendering.renderNested reg element bound)
      (reg.materialize (some element) bound)) :
    NestShows reg rendering (rendering.renderNested reg element (bound + 1))
      (reg.materialize (some element) (bound + 1)) := by
  intro annot annot' formed alike
  obtain ⟨types, values⟩ := same_annot_iff.1 alike
  obtain ⟨decl, groups, proper⟩ := formed.own
  obtain ⟨view, _, of, _⟩ :=
    @viewAnnot_ok _ coherent.valid coherent.known _ none _ _ proper.known proper.mapped {} sound_empty
  have nested := reg.asked_keeps.renderNested rendering element bound
  have made := reg.asked_keeps.materialize (some element) bound
  have presents : reg.Presents rendering element bound (reg.renderAt element rendering bound)
      (reg.materialize (some element) bound) :=
    ⟨reg.renderAt_keeps element rendering bound, made, fun _ _ _ _ _ => inner.fit,
      fun _ => renderWith_shows (fun _ formed _ => formed.item) fun annot formed => by
        rw [renderNested_raw]
        exact inner annot annot formed (same_refl _)⟩
  have keeps : Keeps (Sound reg) (rendering.renderNested reg element (bound + 1) annot) :=
    reg.asked_keeps.renderNested rendering element (bound + 1) annot
  rw [renderNested_stores stores] at keeps ⊢
  refine .of_yields keeps ((Keeps.closed _).map _ (reg.asked_keeps.materialize _ _ _ _))
    fun outcome outcome' left right => ?_
  have same : Source.Same (.annot annot) (.annot annot') := ⟨types, values⟩
  have refused {e : Error} (failed : Yields (Sound reg)
      (Annot.toValue <$> reg.materialize (some element) (bound + 1) (.annot annot') annot'.type)
      (.error e)) : ∃ view' : View, view'.Of reg (.annot annot') annot.type ∧
        Yields (Sound reg) (view'.valuesWith fun _ => reg.materialize (some element) bound)
          (.error e) := by
    rw [types]
    exact coherent.materialize_error (types ▸ proper.known) (types ▸ proper.mapped) failed.map_error
  cases outcome with
  | ok shown =>
    obtain ⟨store, stored, rfl⟩ := left.map_ok
    cases outcome' with
    | ok whole =>
      obtain ⟨complete, made, rfl⟩ := right.map_ok
      obtain ⟨_, view', size, of', _, read⟩ := materialize_ok made
      cases size
      rw [← same.readAs] at of'
      refine .ok ?_
      rw [dress_annot_store stores]
      refine same_store_iff.2 fun name => ?_
      rw [get?_dressEntries]
      exact presents.both_ok coherent defaults formed of of' same stored read name
    | error e =>
      obtain ⟨view', of', failed⟩ := refused right
      exact absurd failed (presents.not_ok_error coherent defaults formed of of' same stored)
  | error e =>
    cases outcome' with
    | ok whole =>
      obtain ⟨complete, made, rfl⟩ := right.map_ok
      obtain ⟨_, view', size, of', _, read⟩ := materialize_ok made
      cases size
      rw [← same.readAs] at of'
      exact absurd read
        (presents.not_error_ok coherent defaults formed of of' same left.map_error)
    | error e' =>
      obtain ⟨view', of', failed⟩ := refused right
      exact .error ⟨presents.storeWith_ends coherent defaults formed of left.map_error,
        presents.valuesWith_ends coherent defaults formed of of' same failed⟩

/-- A formed annotation is rendered as a store that shows what an equal annotation is made into, or
neither can be. -/
theorem renderNested_made (stores : rendering.nestedAsStores = true) :
    NestShows reg rendering (rendering.renderNested reg element bound)
      (reg.materialize (some element) bound) := by
  induction bound with
  | zero => exact fun _ _ _ _ => .throw ⟨rfl, rfl⟩
  | succ bound ih => exact renderNested_step coherent defaults stores ih

/-- However a formed annotation is rendered, it shows what becomes of it where it is rendered as it
is. -/
theorem renderNested_shows (formed : annot.toValue.Formed reg) :
    rendering.Shows reg (rendering.renderNested reg element bound annot)
      (Rendering.raw.renderNested reg element bound annot) := by
  cases stores : rendering.nestedAsStores with
  | true =>
    rw [renderNested_raw]
    exact renderNested_made coherent defaults stores annot annot formed (same_refl _)
  | false =>
    rw [renderNested_annots stores, renderNested_raw]
    -- made complete twice, both times beside one store
    refine (@renderNested_made _ ⟨false, true⟩ _ _ coherent defaults rfl annot annot formed
      (same_refl _)).twice ((Keeps.closed _).map _ (reg.asked_keeps.materialize _ _ _ _))
      (fun value value' made made' => ?_) fun _ _ _ ends ends' => ⟨ends.2, ends'.2⟩
    obtain ⟨one, first, rfl⟩ := made.map_ok
    obtain ⟨other, second, rfl⟩ := made'.map_ok
    rw [dress_annot_plain stores]
    exact materialize_same (.annot annot) (.annot annot) _ _ _
      ⟨rfl, fun _ => Value.sameOption_refl _⟩ first second

end Rendering

/-- However a formed value is rendered, it shows what becomes of it where it is rendered as it is. -/
theorem Registry.render_shows (coherent : reg.Coherent) (defaults : reg.DefaultsFormed)
    (formed : value.Formed reg) :
    rendering.Shows reg (reg.render element rendering value) (reg.render element .raw value) :=
  Rendering.renderWith_shows (fun _ formed _ => formed.item)
    (fun _ formed => Rendering.renderNested_shows coherent defaults formed) formed

/-- Whatever annotation of a known type a value holds is formed. -/
def Value.Admitted (reg : Registry) (value : Value) : Prop :=
  ∀ (annot : Annot) (decl : AnnotType), value.Holds annot.toValue →
    reg.type annot.type = .ok decl → annot.toValue.Formed reg

theorem Value.Formed.admitted (formed : value.Formed reg) : value.Admitted reg :=
  fun _ _ held _ => formed.of_holds held

/-- What is admitted and equals a formed value is formed. -/
theorem Value.Admitted.formed_of_same (admitted : value.Admitted reg)
    (same : value.same value' = true) (formed : value'.Formed reg) : value.Formed reg := by
  refine .intro (fun _ _ _ held => ?_) (fun type values held => ?_)
    fun type values decl attr inner held known mem own =>
      (admitted ⟨type, values⟩ decl held known).given known mem own
  · obtain ⟨inner', held', alike⟩ := held.same same
    cases inner' with
    | store _ _ _ => exact formed.flat held'
    | _ => cases alike
  · obtain ⟨values', held', _⟩ := held.annot_same same
    have formed : (Annot.mk type values').toValue.Formed reg := formed.of_holds held'
    obtain ⟨decl, _, proper⟩ := formed.own
    exact (admitted ⟨type, values⟩ decl held proper.known).own

/-- An annotation of an unknown type cannot be rendered. -/
theorem Rendering.renderNested_unknown {e : Error} (unknown : reg.type annot.type = .error e) :
    rendering.renderNested reg element (bound + 1) annot = throw e := by
  rw [renderNested]
  split
  · simp only [retrieveWith, unknown]
    rfl
  · rw [materialize_succ, viewSource, viewAnnot, unknown]
    rfl

/-- However an admitted value is rendered, it shows what becomes of it where it is rendered as it is. -/
theorem Registry.render_admitted (coherent : reg.Coherent) (defaults : reg.DefaultsFormed)
    (admitted : value.Admitted reg) :
    rendering.ShowsUpTo reg Error.SameReach (reg.render element rendering value)
      (reg.render element .raw value) := by
  refine Rendering.renderWith_shows (fun items admitted item mem annot decl held =>
    admitted annot decl (.item mem held)) (fun annot admitted => ?_) admitted
  cases known : reg.type annot.type with
  | ok decl =>
    exact (Rendering.renderNested_shows coherent defaults (admitted annot decl .here known)).mono
      (fun _ _ => id) fun e e' ends => ends.1.trans ends.2.symm
  | error e =>
    cases reg.nestingBound value with
    | zero => exact .throw rfl
    | succ bound =>
      rw [Rendering.renderNested_unknown known, Rendering.renderNested_unknown known]
      exact .throw rfl

end Annotations
