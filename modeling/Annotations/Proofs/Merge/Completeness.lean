import Annotations.Proofs.Merge.Renderings
import Annotations.Proofs.Search.InStep
import Annotations.Proofs.Value.Parts

/-!
Complete rendering into stores. Where no store is written anywhere, an annotation becomes a store of its
own type by whichever way a value gets into a merge: given, left at its default, handed on to an alias,
or read through a view, which makes annotations of stores first. So what is merged has nothing left in
it, at any depth, that the rendering turns into something else.
-/
namespace Annotations

open Annotations.Action SynthMemo Registry

variable {reg : Registry} {rendering : Rendering} {element : Element} {value rendered : Value}

/-- No store is part of a declared default or of an annotation that is written on a class, a method or
a type. -/
structure Registry.StoreFree (reg : Registry) : Prop where
  defaults : ∀ type decl attr value, reg.type type = .ok decl → attr ∈ decl.attrs →
    attr.default? = some value → value.StoreFree
  annots : ∀ element annots annot, reg.declaredAnnots element = .ok annots → annot ∈ annots →
    annot.toValue.StoreFree

/-- What an annotation can become where it is nested in something that is rendered. -/
def Registry.RendersInto (reg : Registry) (rendering : Rendering) (annot : Annot) (rendered : Value) :
    Prop :=
  ∃ element bound, Yields (Sound reg) (rendering.renderNested reg element bound annot) (.ok rendered)

/-- A value in which a rendering into stores has nothing left to do: no annotation is in it, each store
in it is what an annotation of the store's type becomes, and classes are in it only if they may stay. -/
inductive Value.Final (reg : Registry) (rendering : Rendering) : Value → Prop
  | text (content : String) : Final reg rendering (.text content)
  | boolean (flag : Bool) : Final reg rendering (.boolean flag)
  | long (number : Int64) : Final reg rendering (.long number)
  | double (bits : UInt64) : Final reg rendering (.double bits)
  | enum (type constant : String) : Final reg rendering (.enum type constant)
  | classRef (name : String) : rendering.classesAsText = false → Final reg rendering (.classRef name)
  | array {items : List Value} : (∀ item ∈ items, Final reg rendering item) →
    Final reg rendering (.array items)
  | store {annot : Annot} {shown : Option String} {values : Entries Value} :
    reg.RendersInto rendering annot (.store (some annot.type) shown values) →
    (∀ name value, values.get? name = some value → Final reg rendering value) →
    Final reg rendering (.store (some annot.type) shown values)

theorem Value.Final.part {inner : Value} (h : value.Final reg rendering) (part : value.Part inner) :
    inner.Final reg rendering := by
  induction part with
  | here => exact h
  | item mem _ ih =>
    cases h with
    | array items => exact ih (items _ mem)
  | annot _ _ _ => cases h
  | store own _ ih =>
    cases h with
    | store _ values => exact ih (values _ _ own)

namespace View

variable {view : View} {name : String} {nested : Value → Source → String → Action SynthMemo Annot}

/-- No store is part of what an attribute is read with, if none is part of what nested annotations
become. -/
theorem attrWith_storeFree
    (keeps : ∀ value source type, Keeps (Sound reg) (nested value source type))
    (made : ∀ value source type annot, Yields (Sound reg) (nested value source type) (.ok annot) →
      annot.type = source.readAs type ∧ annot.toValue.StoreFree)
    (h : Yields (Sound reg) (view.attrWith nested name) (.ok value)) : value.StoreFree := by
  obtain ⟨attr, found⟩ := attrWith_declared h
  obtain ⟨picked, _, fitted⟩ := attrWith_ok found h
  exact (fit_made (fun _ => .plain) (fun _ => .array) (keeps picked) (made picked) fitted).2

end View

/-- No store is part of what a source is made into, even if the source is a store. -/
theorem Registry.materialize_storeFree {element : Option Element} {bound : Nat} {source : Source}
    {type : String} {annot : Annot}
    (h : Yields (Sound reg) (reg.materialize element bound source type) (.ok annot)) :
    annot.type = source.readAs type ∧ annot.toValue.StoreFree := by
  induction bound generalizing source type annot with
  | zero => cases h.throw
  | succ bound ih =>
    obtain ⟨_, view, size, _, named, read⟩ := materialize_ok h
    cases size
    have keeps := fun _ : Value => reg.asked_keeps.materialize element bound
    obtain ⟨full, closed⟩ := View.valuesWith_reads keeps read
    refine ⟨named, .annot fun name value own => ?_⟩
    cases found : view.type.attr? name with
    | none => cases own.symm.trans (closed name found)
    | some attr =>
      obtain ⟨value', own', read⟩ := full name attr found
      cases own.symm.trans own'
      exact View.attrWith_storeFree keeps (fun _ _ _ _ => ih) read

theorem View.attr_storeFree {view : View} {name : String}
    (h : Yields (Sound reg) (view.attr reg name) (.ok value)) : value.StoreFree :=
  attrWith_storeFree (fun _ => reg.asked_keeps.materialize _ _)
    (fun _ _ _ _ => Registry.materialize_storeFree) h

/-- Pending attributes whose given values are final and in whose defaults no store is. -/
structure Pending.Ready (reg : Registry) (rendering : Rendering) (pending : Pending) : Prop where
  distinct : pending.slots.names.Nodup
  given : ∀ name value, pending.slots.get? name = some (.given value) → value.Final reg rendering
  default : ∀ name value, pending.slots.get? name = some (.default value) → value.StoreFree

theorem Pending.Ready.putGiven {pending : Pending} (h : pending.Ready reg rendering)
    (final : value.Final reg rendering) (name : String) :
    (pending.putGiven name value).Ready reg rendering where
  distinct := Entries.nodup_names_put h.distinct name _
  given other value' own := by
    rw [putGiven_get?] at own
    split at own
    · cases own
      exact final
    · exact h.given other value' own
  default other value' own := by
    rw [putGiven_get?] at own
    split at own
    · cases own
    · exact h.default other value' own

theorem Pending.Ready.giveAll {pending : Pending} (h : pending.Ready reg rendering)
    (final : value.Final reg rendering) (names : List String) :
    (pending.giveAll value names).Ready reg rendering := by
  induction names generalizing pending with
  | nil => exact h
  | cons name rest ih => exact ih (h.putGiven final name)

namespace Registry

section

variable {render : Value → Action SynthMemo Value} (keeps : ∀ value, Keeps (Sound reg) (render value))
  (leaves : ∀ value rendered, value.StoreFree → Yields (Sound reg) (render value) (.ok rendered) →
    rendered.Final reg rendering)

include keeps leaves

/-- What an annotation by itself gives its attributes is ready, if no store is part of it. -/
theorem retrieveWith_ready (free : reg.StoreFree) {annot : Annot} (flat : annot.toValue.StoreFree)
    {pending : Pending} (h : Yields (Sound reg) (reg.retrieveWith render annot) (.ok pending)) :
    pending.Ready reg rendering := by
  obtain ⟨decl, known, origin⟩ := retrieveWith_from keeps h
  refine ⟨origin.distinct, fun name value own => ?given, fun name value own => ?default⟩
  case given =>
    obtain ⟨attr, _, given, rfl, explicit, _, made⟩ := origin.given own
    exact leaves given value (flat.entry explicit) made
  case default =>
    obtain ⟨attr, mem, found, _⟩ := origin.default own
    rcases Option.or_eq_some_iff.1 found with explicit | ⟨_, default'⟩
    · exact flat.entry explicit
    · exact free.defaults _ _ _ _ known mem default'

/-- Ready attributes make a store of final values. -/
theorem finishWith_final {pending : Pending} (ready : pending.Ready reg rendering) {store : Store}
    (h : Yields (Sound reg) (reg.finishWith render element pending) (.ok store)) {name : String}
    (held : store.get? name = some value) : value.Final reg rendering := by
  rcases finishWith_held keeps ready.distinct h held with
    ⟨slot, own, holds⟩ | ⟨_, partner, _, _, given⟩
  · cases slot with
    | given _ =>
      cases holds
      exact ready.given name value own
    | default fallback => exact leaves fallback value (ready.default name fallback own) holds
  · exact ready.given partner value given

end

end Registry

namespace Rendering

/-- Rendering leaves values final in which no store is, if it does so with nested annotations. -/
theorem renderWith_final {nested : Annot → Action SynthMemo Value}
    (keeps : ∀ annot, Keeps (Sound reg) (nested annot))
    (made : ∀ annot made, annot.toValue.StoreFree → Yields (Sound reg) (nested annot) (.ok made) →
      made.Final reg rendering) (flat : value.StoreFree)
    (h : Yields (Sound reg) (rendering.renderWith nested value) (.ok rendered)) :
    rendered.Final reg rendering := by
  induction value using Value.inside_induction generalizing rendered with
  | annot type values _ => exact made ⟨type, values⟩ rendered flat h
  | array items ih =>
    unfold renderWith at h
    have each := reg.asked_keeps.renderWith keeps rendering
    obtain ⟨results, all, h⟩ := h.bind_ok (reg.asked_keeps.renderItems fun item _ => each item)
    cases h.pure
    refine .array fun result mem => ?_
    obtain ⟨item, inside, first⟩ := partner_of_forall₂ (renderItems_yields keeps all).flip mem
    exact ih item inside (flat.item inside) first
  | store type shown values _ => exact absurd .here (flat type shown values)
  | classRef name =>
    cases h.pure
    split
    · exact .text name
    · rename_i kept
      exact .classRef name (by simpa using kept)
  | text content =>
    cases h.pure
    exact .text content
  | boolean flag =>
    cases h.pure
    exact .boolean flag
  | long number =>
    cases h.pure
    exact .long number
  | double bits =>
    cases h.pure
    exact .double bits
  | enum type constant =>
    cases h.pure
    exact .enum type constant

/-- A nested annotation becomes a store of its type, whose values are final. -/
theorem renderNested_final (free : reg.StoreFree) (stores : rendering.nestedAsStores = true)
    {bound : Nat} {annot : Annot} (flat : annot.toValue.StoreFree)
    (h : Yields (Sound reg) (rendering.renderNested reg element bound annot) (.ok rendered)) :
    rendered.Final reg rendering := by
  induction bound generalizing annot rendered with
  | zero => cases h.throw
  | succ bound ih =>
    have into : reg.RendersInto rendering annot rendered := ⟨element, bound + 1, h⟩
    have keeps := reg.renderAt_keeps element rendering bound
    have leaves : ∀ value rendered, value.StoreFree →
        Yields (Sound reg) (reg.renderAt element rendering bound value) (.ok rendered) →
        rendered.Final reg rendering := fun value rendered flat made =>
      renderWith_final (reg.asked_keeps.renderNested rendering element bound)
        (fun _ _ flat made => ih flat made) flat made
    rw [renderNested_stores stores] at h
    obtain ⟨store, made, rfl⟩ := h.map_ok
    obtain ⟨pending, retrieved, finished⟩ :=
      made.bind_ok (reg.asked_keeps.retrieveWith keeps annot)
    have ready := retrieveWith_ready keeps leaves free flat retrieved
    obtain ⟨_, _, origin⟩ := retrieveWith_from keeps retrieved
    obtain ⟨type, shown, values⟩ := store
    obtain rfl : type = some annot.type := (finishWith_type keeps finished).trans (congrArg some origin.type)
    exact .store into fun name value own => finishWith_final keeps leaves ready finished own

end Rendering

/-- A value in which no store is is final as a merged store holds it. -/
theorem Registry.render_final (free : reg.StoreFree) (stores : rendering.nestedAsStores = true)
    (flat : value.StoreFree)
    (h : Yields (Sound reg) (reg.render element rendering value) (.ok rendered)) :
    rendered.Final reg rendering :=
  Rendering.renderWith_final (reg.asked_keeps.renderNested rendering element _)
    (fun _ _ flat made => Rendering.renderNested_final free stores flat made) flat h

namespace Merge

variable {merge : Merge} (free : merge.reg.StoreFree)
  (stores : merge.rendering.nestedAsStores = true)

include free stores

/-- What a view gives an attribute is final, whatever the view is of. -/
theorem read_final {view : View} {source : String}
    (h : Yields (Sound merge.reg) (merge.read element view source) (.ok value)) :
    value.Final merge.reg merge.rendering := by
  obtain ⟨read, seen, h⟩ := h.bind_ok (merge.reg.asked_keeps.attr view source)
  exact render_final free stores (View.attr_storeFree seen) h

/-- Whatever a merge makes of a trail of written annotations is ready. -/
theorem builds_ready {trail : Trail} {pending : Pending}
    (h : merge.processor.Builds (Sound merge.reg) trail pending) :
    (∀ step ∈ trail, merge.reg.Gives step.2) → pending.Ready merge.reg merge.rendering := by
  refine builds_induction (P := fun trail pending => (∀ step ∈ trail, merge.reg.Gives step.2) →
      pending.Ready merge.reg merge.rendering)
    (fun element annot pending own retrieved gives => ?last)
    (fun element annot trail inner pending view groups written _ ih _ _ overlays gives => ?step) h
  case last =>
    obtain ⟨there, annots, declared, mem⟩ := gives _ (.head [])
    exact retrieveWith_ready (merge.reg.asked_keeps.render element merge.rendering)
      (fun value rendered flat made => render_final free stores flat made) free
      (free.annots there annots annot declared mem) retrieved
  case step =>
    have ready := ih fun step mem => gives step (.tail _ mem)
    refine overlays.keeps_by (P := fun pending => pending.Ready merge.reg merge.rendering)
      (fun attr start stop writes before => ?_) ready
    cases writes with
    | group _ _ reads => exact Pending.Ready.giveAll before (read_final free stores reads) _
    | again _ _ => exact before
    | named _ _ _ reads => exact Pending.Ready.putGiven before (read_final free stores reads) _
    | pass _ => exact before

end Merge
end Annotations
