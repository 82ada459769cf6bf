import Annotations.Merge
import Annotations.Proofs.Action.Coupled
import Annotations.Proofs.Alias.Synthesizable

/-!
Views, rendering and merges know a memo only through three questions about types: whether views of
one need alias handling, its alias map, and what an attribute overrides. So a property of
computations that sequencing keeps holds of all of them once it holds of the questions.
-/
namespace Annotations

open SynthMemo Annotations.Action

/-- A property of computations that sequencing keeps and that the questions about types have. -/
structure Registry.Asked (reg : Registry) (P : ∀ {α : Type}, Action SynthMemo α → Prop) : Prop
    extends Closed P where
  synthesizable : ∀ type, P (reg.isSynthesizable type)
  aliasMap : ∀ type, P (reg.recallAliasMap type)
  overrideName : ∀ type attr target, P (reg.recallOverrideName type attr target)

/-- Whatever is asked, a sound memo stays sound. -/
theorem Registry.asked_keeps (reg : Registry) : reg.Asked (Keeps (Sound reg)) where
  toClosed := Keeps.closed _
  synthesizable := reg.isSynthesizable_keeps
  aliasMap type := (reg.recallAliasMap_computes type).steady.keeps
  overrideName type attr target := (reg.recallOverrideName_computes type attr target).steady.keeps

/-- From one sound memo everything runs alike. -/
theorem Registry.asked_once (reg : Registry) :
    reg.Asked fun f => Alike (fun memo memo' => memo = memo' ∧ Sound reg memo) f f where
  toClosed := Alike.closed _
  synthesizable type := (reg.isSynthesizable_keeps type).alike
  aliasMap type := (reg.recallAliasMap_computes type).steady.keeps.alike
  overrideName type attr target :=
    (reg.recallOverrideName_computes type attr target).steady.keeps.alike

/-- Where all declarations are sound, no answer depends on what is kept. -/
theorem Registry.asked_alike {reg : Registry} (valid : reg.AliasesValid) (known : reg.NestedKnown) :
    reg.Asked fun f => Alike (fun memo memo' => Sound reg memo ∧ Sound reg memo') f f where
  toClosed := Alike.closed _
  synthesizable type := (isSynthesizable_steady valid known type).alike
  aliasMap type := (reg.recallAliasMap_computes type).steady.alike
  overrideName type attr target := (reg.recallOverrideName_computes type attr target).steady.alike

/-- A view of a source, of a store as an annotation of a type. -/
def Registry.viewSource (reg : Registry) (element : Option Element) :
    Source → String → Action SynthMemo View
  | .annot annot, _ => reg.viewAnnot annot element
  | .store store, type => reg.viewStore store type element

theorem Registry.materialize_succ (reg : Registry) (element : Option Element) (bound : Nat)
    (source : Source) (type : String) :
    reg.materialize element (bound + 1) source type =
      reg.viewSource element source type >>= fun view =>
        view.valuesWith (fun _ => reg.materialize element bound) >>= fun values =>
          pure { type := view.name, values } := by
  cases source <;> rfl

namespace Registry.Asked

variable {reg : Registry} {P : ∀ {α : Type}, Action SynthMemo α → Prop}

theorem viewAnnot (h : reg.Asked P) (annot : Annot) (element : Option Element) :
    P (reg.viewAnnot annot element) := by
  refine h.bind (h.lift _) fun type => ?_
  refine h.bind (h.synthesizable _) fun answer => ?_
  cases answer with
  | true => exact h.bind (h.aliasMap _) fun aliases => h.pure _
  | false => exact h.pure _

theorem viewStore (h : reg.Asked P) (store : Store) (name : String) (element : Option Element) :
    P (reg.viewStore store name element) := by
  refine h.bind (h.lift _) fun type => ?_
  exact h.bind (h.aliasMap _) fun aliases => h.pure _

theorem viewSource (h : reg.Asked P) (element : Option Element) (source : Source) (type : String) :
    P (reg.viewSource element source type) := by
  cases source with
  | annot annot => exact h.viewAnnot annot element
  | store store => exact h.viewStore store type element

theorem fit_of_items (h : reg.Asked P) {nested : Source → String → Action SynthMemo Annot}
    (hn : ∀ source type, P (nested source type)) {owner name : String} {declared : AttrType}
    (hi : ∀ element, declared = .array element → ∀ item,
      P (View.fit owner nested name element item))
    (value : Value) : P (View.fit owner nested name declared value) := by
  fun_cases View.fit owner nested name declared value with
  | case1 element items => exact h.bind (h.mapM (hi element rfl) items) fun items => h.pure _
  | case2 content => exact h.pure _
  | case3 type values => exact h.bind (hn _ _) fun annot => h.pure _
  | case5 type given displayName values fits => exact h.bind (hn _ _) fun annot => h.pure _
  | case7 => exact h.pure _
  | case4 | case6 | case8 => exact h.throw _

theorem fit (h : reg.Asked P) {nested : Source → String → Action SynthMemo Annot}
    (hn : ∀ source type, P (nested source type)) (owner name : String) (declared : AttrType)
    (value : Value) : P (View.fit owner nested name declared value) := by
  induction declared generalizing value with
  | array element ih =>
    refine h.fit_of_items hn (fun inner same => ?_) value
    cases same
    exact ih
  | _ => exact h.fit_of_items hn (fun inner same => by cases same) value

theorem attrWith (h : reg.Asked P) {nested : Value → Source → String → Action SynthMemo Annot}
    (hn : ∀ value source type, P (nested value source type)) (view : View) (name : String) :
    P (view.attrWith nested name) := by
  unfold View.attrWith
  split
  · exact h.throw _
  · exact h.bind (h.lift _) fun value => h.fit (hn value) _ _ _ _

theorem valuesWith (h : reg.Asked P) {nested : Value → Source → String → Action SynthMemo Annot}
    (hn : ∀ value source type, P (nested value source type)) (view : View) :
    P (view.valuesWith nested) := by
  refine h.bind (h.mapM (fun attr => ?_) _) fun pairs => h.pure _
  exact h.bind (h.attrWith hn view attr.name) fun value => h.pure _

theorem materialize (h : reg.Asked P) (element : Option Element) (bound : Nat) (source : Source)
    (type : String) : P (reg.materialize element bound source type) := by
  induction bound generalizing source type with
  | zero => exact h.throw _
  | succ bound ih =>
    rw [materialize_succ]
    refine h.bind (h.viewSource element source type) fun view => ?_
    exact h.bind (h.valuesWith (fun _ => ih) view) fun values => h.pure _

theorem attr (h : reg.Asked P) (view : View) (name : String) : P (view.attr reg name) :=
  h.attrWith (fun value => h.materialize view.element (reg.nestingBound value)) view name

theorem renderItems (h : reg.Asked P) {rendering : Rendering}
    {nested : Annot → Action SynthMemo Value}
    {items : List Value} (each : ∀ item ∈ items, P (rendering.renderWith nested item)) :
    P (rendering.renderItems nested items) := by
  induction items with
  | nil => exact h.pure []
  | cons item rest ih =>
    unfold Rendering.renderItems
    refine h.bind (each item (.head rest)) fun head => ?_
    exact h.bind (ih fun other mem => each other (.tail item mem)) fun tail => h.pure _

theorem renderWith (h : reg.Asked P) {nested : Annot → Action SynthMemo Value}
    (hn : ∀ annot, P (nested annot)) (rendering : Rendering) (value : Value) :
    P (rendering.renderWith nested value) := by
  match value with
  | .annot type values => exact hn ⟨type, values⟩
  | .array items =>
    unfold Rendering.renderWith
    refine h.bind (h.renderItems fun item mem => ?_) fun items => h.pure _
    have := List.sizeOf_lt_of_mem mem
    exact h.renderWith hn rendering item
  | .classRef _ => exact h.pure _
  | .text _ | .boolean _ | .long _ | .double _ | .enum _ _ | .store _ _ _ => exact h.pure _

theorem slotsOf (h : reg.Asked P) {render : Value → Action SynthMemo Value}
    (hr : ∀ value, P (render value)) (annot : Annot) (attrs : List Attr) (slots : Entries Slot) :
    P (Registry.slotsOf render annot attrs slots) := by
  induction attrs generalizing slots with
  | nil => exact h.pure _
  | cons attr rest ih =>
    unfold Registry.slotsOf
    split
    · exact h.throw _
    · rename_i value _
      dsimp only
      split
      · exact h.bind (h.pure _) fun slot => ih _
      · exact h.bind (h.map _ (hr value)) fun slot => ih _

theorem retrieveWith (h : reg.Asked P) {render : Value → Action SynthMemo Value}
    (hr : ∀ value, P (render value)) (annot : Annot) : P (reg.retrieveWith render annot) := by
  refine h.bind (h.lift _) fun type => ?_
  exact h.bind (h.slotsOf hr annot type.attrs []) fun slots => h.pure _

theorem storeSlots (h : reg.Asked P) {render : Value → Action SynthMemo Value}
    (hr : ∀ value, P (render value)) (slots : Entries Slot) (store : Store) :
    P (Registry.storeSlots render slots store) := by
  induction slots generalizing store with
  | nil => exact h.pure _
  | cons entry rest ih =>
    obtain ⟨name, slot⟩ := entry
    unfold Registry.storeSlots
    cases slot with
    | given value => exact h.bind (h.pure value) fun value => ih _
    | default value => exact h.bind (hr value) fun value => ih _

theorem finishWith (h : reg.Asked P) {render : Value → Action SynthMemo Value}
    (hr : ∀ value, P (render value)) (element : Element) (pending : Pending) :
    P (reg.finishWith render element pending) := by
  refine h.bind (h.aliasMap _) fun aliases => ?_
  refine h.bind (h.lift _) fun slots => ?_
  exact h.storeSlots hr slots _

theorem renderNested (h : reg.Asked P) (rendering : Rendering) (element : Element) (bound : Nat)
    (annot : Annot) : P (rendering.renderNested reg element bound annot) := by
  induction bound generalizing annot with
  | zero => exact h.throw _
  | succ bound ih =>
    unfold Rendering.renderNested
    split
    · have render := h.renderWith ih rendering
      refine h.bind (h.retrieveWith render annot) fun pending => ?_
      exact h.bind (h.finishWith render element pending) fun store => h.pure _
    · exact h.bind (h.materialize _ _ _ _) fun annot => h.pure _

theorem render (h : reg.Asked P) (element : Element) (rendering : Rendering) (value : Value) :
    P (reg.render element rendering value) :=
  h.renderWith (h.renderNested rendering element (reg.nestingBound value)) rendering value

theorem retrieve (h : reg.Asked P) (element : Element) (rendering : Rendering) (annot : Annot) :
    P (reg.retrieve element rendering annot) :=
  h.retrieveWith (h.render element rendering) annot

theorem finish (h : reg.Asked P) (element : Element) (rendering : Rendering) (pending : Pending) :
    P (reg.finish element rendering pending) :=
  h.finishWith (h.render element rendering) element pending

theorem annotAttributes (h : reg.Asked P) (element : Element) (rendering : Rendering)
    (annot : Annot) : P (reg.annotAttributes element rendering annot) :=
  h.bind (h.retrieve element rendering annot) (h.finish element rendering)

end Registry.Asked

namespace Merge

variable {merge : Merge} {P : ∀ {α : Type}, Action SynthMemo α → Prop}

theorem writeAll_asked (h : merge.reg.Asked P) (element : Element) (view : View) (source : String)
    (targets : List String) (pending : Pending) :
    P (merge.writeAll element view source targets pending) := by
  refine h.bind (h.attr view source) fun value => ?_
  exact h.bind (h.render element merge.rendering value) fun value => h.pure _

theorem overlay_asked (h : merge.reg.Asked P) (element : Element) (view : View)
    (groups : Entries (List String)) (attrs : List Attr) (written : List String)
    (pending : Pending) : P (merge.overlay element view groups attrs written pending) := by
  induction attrs generalizing written pending with
  | nil => exact h.pure _
  | cons attr rest ih =>
    unfold Merge.overlay
    refine h.bind (h.overrideName _ _ _) fun aim => ?_
    cases aim with
    | some name =>
      simp only
      split
      · exact ih _ _
      · exact h.bind (writeAll_asked h _ _ _ _ _) fun pending => ih _ _
    | none =>
      simp only
      split
      · exact h.bind (writeAll_asked h _ _ _ _ _) fun pending => ih _ _
      · exact ih _ _

theorem override_asked (h : merge.reg.Asked P) (element : Element) (annot : Annot)
    (pending : Pending) : P (merge.override element annot pending) := by
  refine h.bind (h.viewAnnot annot _) fun view => ?_
  exact h.bind (h.aliasMap _) fun groups => overlay_asked h _ _ _ _ _ _

theorem process_asked (h : merge.reg.Asked P) (element : Element) (annot : Annot) (depth : Nat) :
    P (merge.processor.process element annot depth) := by
  unfold processor
  simp only
  split
  · exact h.map _ (h.retrieve element merge.rendering annot)
  · exact h.pure _

end Merge
end Annotations
