import Annotations.Proofs.Action.Paired
import Annotations.Proofs.Merge.Congruence
import Annotations.Proofs.Value.Twins

/-!
Values that differ only in the order of entries and in the names shown for stores are read with the same
success: reading both gives annotations, or it fails for both, and the failures differ at most in the
texts of values.
-/
namespace Annotations

open Annotations.Action SynthMemo Registry

/-- Errors that are one but for the texts of values in a conflict. -/
inductive Error.SameButTexts : Error → Error → Prop
  | refl (e : Error) : SameButTexts e e
  | conflict (type element attr partner value partnerValue value' partnerValue' : String) :
    SameButTexts (.attributeConflict type element attr partner value partnerValue)
      (.attributeConflict type element attr partner value' partnerValue')

/-- Two sources of one kind with twins under each name. -/
def Source.Twins : Source → Source → Prop
  | .annot a, .annot b => a.type = b.type ∧
      ∀ name, Option.Rel Value.Twins (a.values.get? name) (b.values.get? name)
  | .store a, .store b => ∀ name, Option.Rel Value.Twins (a.values.get? name) (b.values.get? name)
  | _, _ => False

theorem Source.Twins.refl (source : Source) : source.Twins source := by
  cases source with
  | annot annot => exact ⟨rfl, fun name => Value.twins_refl_option _⟩
  | store store => exact fun name => Value.twins_refl_option _

/-- Two views that differ only in what they read from, and there hold twins under each name. -/
structure View.Twins (view view' : View) : Prop where
  name : view.name = view'.name
  type : view.type = view'.type
  element : view.element = view'.element
  aliases : view.aliases = view'.aliases
  raw : ∀ name, Option.Rel Value.Twins (view.raw name) (view'.raw name)

variable {reg : Registry} {R : SynthMemo → SynthMemo → Prop} {E : Error → Error → Prop}
  {view view' : View} {value value' : Value}

namespace View

theorem raw_twins {source source' : Source} (sources : source.Twins source')
    (own : view.source = source) (own' : view'.source = source') (types : view.type = view'.type)
    (name : String) : Option.Rel Value.Twins (view.raw name) (view'.raw name) := by
  unfold raw
  rw [own, own', types]
  match source, source', sources with
  | .annot a, .annot b, ⟨_, all⟩ =>
    have here := all name
    simp only [Annot.value?]
    generalize a.values.get? name = left at here
    generalize b.values.get? name = right at here
    cases here with
    | none => exact Value.twins_refl_option _
    | some twins => exact .some twins
  | .store a, .store b, all => exact all name

theorem wrap_twins (declared : AttrType) (twins : value.Twins value') :
    (wrap declared value).Twins (wrap declared value') := by
  have single : (Value.array [value]).Twins (.array [value']) := .array (.cons twins .nil)
  cases declared with
  | array element => cases twins with
    | refl => exact .refl
    | array all => exact .array all
    | annot _ _ _ => exact single
    | store _ _ _ => exact single
  | _ => exact twins

theorem Twins.sameOption {left right : Option Value} (h : Option.Rel Value.Twins left right) :
    Value.sameOption left right = true := by
  cases h with
  | none => rfl
  | some twins => exact twins.same

/-- Aliases of twin views settle on twins, or not at all. -/
theorem settle_twins (views : view.Twins view') {default? value value' : Option Value}
    {partners : List String} {declaredBy : String} (alike : Option.Rel Value.Twins value value') :
    Outcome.Meet (Option.Rel Value.Twins) Error.SameButTexts
      (view.settle default? partners value declaredBy)
      (view'.settle default? partners value' declaredBy) := by
  induction partners generalizing value value' declaredBy with
  | nil => exact .ok alike
  | cons partner rest ih =>
    have other := views.raw partner
    have same := Twins.sameOption alike
    have same' := Twins.sameOption other
    have set : isSet value default? = isSet value' default? := isSet_same same
    have otherSet : isSet (view.raw partner) default? = isSet (view'.raw partner) default? :=
      isSet_same same'
    have there := Value.sameOption_isSome same'
    unfold settle
    simp only [set, otherSet, there, Value.sameOption_congr same same']
    split
    · rw [views.name, elementText, views.element]
      exact .error (.conflict _ _ _ _ _ _ _ _)
    · split
      · exact ih other
      · exact ih alike

theorem pick_twins (views : view.Twins view') (attr : Attr) :
    Outcome.Meet Value.Twins Error.SameButTexts (view.pick attr) (view'.pick attr) := by
  unfold pick
  rw [views.aliases]
  refine (settle_twins views (views.raw attr.name)).bind fun settled settled' alike => ?_
  have chosen : Option.Rel Value.Twins (settled.or attr.default?) (settled'.or attr.default?) := by
    cases alike with
    | none => exact Value.twins_refl_option _
    | some twins => exact .some twins
  generalize settled.or attr.default? = left at chosen
  generalize settled'.or attr.default? = right at chosen
  cases chosen with
  | some twins => exact .ok twins
  | none =>
    rw [views.name, elementText, views.element]
    exact .error (.refl _)

section

variable {nested nested' : Source → String → Action SynthMemo Annot} {owner owner' name name' : String}
  (mismatch : ∀ expected actual, E (.attributeTypeMismatch name owner expected actual)
    (.attributeTypeMismatch name' owner' expected actual))

include mismatch

theorem checked_twins (twins : value.Twins value') (declared : AttrType) :
    Paired R (fun _ _ => True) E
      (if value.conformsTo declared then pure value
        else throw (.attributeTypeMismatch name owner declared.display value.kind))
      (if value'.conformsTo declared then pure value'
        else throw (.attributeTypeMismatch name' owner' declared.display value'.kind)) := by
  rw [twins.conformsTo, twins.kind]
  split
  · exact .pure trivial
  · exact .throw (mismatch _ _)

variable (makes : ∀ source source' type, source.Twins source' →
  Paired R (fun _ _ => True) E (nested source type) (nested' source' type))

include makes

theorem fit_annot_twins (type given : String) {values values' : Entries Value}
    (sources : (Source.annot ⟨given, values⟩).Twins (.annot ⟨given, values'⟩)) :
    Paired R (fun _ _ => True) E (fit owner nested name (.annot type) (.annot given values))
      (fit owner' nested' name' (.annot type) (.annot given values')) := by
  simp only [fit]
  split
  · exact (makes _ _ type sources).bind fun _ _ _ => .pure trivial
  · exact .throw (mismatch _ _)

theorem fit_store_twins (type : String) (given : Option String) {shown shown' : Option String}
    {values values' : Entries Value}
    (sources : (Source.store ⟨given, shown, values⟩).Twins (.store ⟨given, shown', values'⟩)) :
    Paired R (fun _ _ => True) E (fit owner nested name (.annot type) (.store given shown values))
      (fit owner' nested' name' (.annot type) (.store given shown' values')) := by
  simp only [fit]
  split
  · exact (makes _ _ type sources).bind fun _ _ _ => .pure trivial
  · exact .throw (mismatch _ _)

/-- Twins are both fitted to a declared type, or neither is. -/
theorem fit_twins {declared : AttrType} (twins : value.Twins value') :
    Paired R (fun _ _ => True) E (fit owner nested name declared value)
      (fit owner' nested' name' declared value') := by
  induction declared generalizing value value' with
  | array element ih =>
    have items {items items' : List Value} (all : List.Forall₂ Value.Twins items items') :
        Paired R (fun _ _ => True) E (fit owner nested name (.array element) (.array items))
          (fit owner' nested' name' (.array element) (.array items')) := by
      simp only [fit]
      exact (Paired.mapM (fun _ _ twins => ih twins) all).bind fun _ _ _ => .pure trivial
    have checked := checked_twins (R := R) mismatch twins (.array element)
    cases twins with
    | array all => exact items all
    | annot _ _ _ | store _ _ _ =>
      simp only [fit]
      exact checked
    | refl =>
      cases value with
      | array given => exact items (List.forall₂_same.2 fun item _ => .refl)
      | _ =>
        simp only [fit]
        exact checked
  | annot type =>
    have checked := checked_twins (R := R) mismatch twins (.annot type)
    cases twins with
    | annot _ _ all => exact fit_annot_twins mismatch makes type _ ⟨rfl, all⟩
    | store _ _ all => exact fit_store_twins mismatch makes type _ all
    | array _ =>
      simp only [fit]
      exact checked
    | refl =>
      cases value with
      | annot given values =>
        exact fit_annot_twins mismatch makes type given (.refl (.annot ⟨given, values⟩))
      | store given shown values =>
        exact fit_store_twins mismatch makes type given (.refl (.store ⟨given, shown, values⟩))
      | _ =>
        simp only [fit]
        exact checked
  | classRef =>
    have checked := checked_twins (R := R) mismatch twins .classRef
    cases twins with
    | array _ | annot _ _ _ | store _ _ _ =>
      simp only [fit]
      exact checked
    | refl =>
      cases value with
      | text content =>
        simp only [fit]
        exact .pure trivial
      | _ =>
        simp only [fit]
        exact checked
  | _ =>
    simp only [fit]
    exact checked_twins mismatch twins _

end

variable {nested nested' : Value → Source → String → Action SynthMemo Annot}

/-- Of twin views an attribute is read in both, or in neither. -/
theorem attrWith_twins (views : view.Twins view')
    (makes : ∀ value value', value.Twins value' → ∀ source source' type, source.Twins source' →
      Paired R (fun _ _ => True) Error.SameButTexts (nested value source type)
        (nested' value' source' type)) (name : String) :
    Paired R (fun _ _ => True) Error.SameButTexts (view.attrWith nested name)
      (view'.attrWith nested' name) := by
  unfold attrWith
  rw [views.type]
  split
  · rw [views.name]
    exact .throw (.refl _)
  · rename_i attr _
    refine (Paired.lift (pick_twins views attr)).bind fun picked picked' twins => ?_
    rw [views.name]
    exact fit_twins (fun _ _ => .refl _) (makes picked picked' twins) (wrap_twins _ twins)

theorem valuesWith_twins (views : view.Twins view')
    (makes : ∀ value value', value.Twins value' → ∀ source source' type, source.Twins source' →
      Paired R (fun _ _ => True) Error.SameButTexts (nested value source type)
        (nested' value' source' type)) :
    Paired R (fun _ _ => True) Error.SameButTexts (view.valuesWith nested)
      (view'.valuesWith nested') := by
  unfold valuesWith
  rw [views.type]
  refine (Paired.mapM (P := Eq) (S := fun _ _ => True) ?_ (List.forall₂_same.2 fun _ _ => rfl)).bind
    fun _ _ _ => .pure trivial
  rintro attr _ rfl
  exact (attrWith_twins views makes attr.name).bind fun _ _ _ => .pure trivial

end View

namespace Registry

variable (asked : reg.Asked fun f => Alike R f f)

include asked

theorem viewSource_twins {source source' : Source} (sources : source.Twins source')
    (element : Option Element) (type : String) :
    Paired R View.Twins Error.SameButTexts (reg.viewSource element source type)
      (reg.viewSource element source' type) := by
  have lifted {α : Type} (outcome : Except Error α) :=
    Paired.of_alike (E := Error.SameButTexts) .refl (asked.lift outcome)
  have mapped (type : String) := Paired.of_alike (E := Error.SameButTexts) .refl (asked.aliasMap type)
  match source, source', sources with
  | .annot a, .annot b, sources =>
    simp only [viewSource, viewAnnot, sources.1]
    refine (lifted _).bind ?_
    rintro decl _ rfl
    refine (Paired.of_alike .refl (asked.synthesizable b.type)).bind ?_
    rintro answer _ rfl
    cases answer with
    | true =>
      refine (mapped b.type).bind ?_
      rintro groups _ rfl
      exact .pure ⟨rfl, rfl, rfl, rfl, View.raw_twins sources rfl rfl rfl⟩
    | false => exact .pure ⟨rfl, rfl, rfl, rfl, View.raw_twins sources rfl rfl rfl⟩
  | .store a, .store b, sources =>
    simp only [viewSource, viewStore]
    refine (lifted _).bind ?_
    rintro decl _ rfl
    refine (mapped type).bind ?_
    rintro groups _ rfl
    exact .pure ⟨rfl, rfl, rfl, rfl, View.raw_twins sources rfl rfl rfl⟩

/-- Twin sources are both made into annotations, or neither is. -/
theorem materialize_twins (element : Option Element) (bound : Nat) {source source' : Source}
    (sources : source.Twins source') (type : String) :
    Paired R (fun _ _ => True) Error.SameButTexts (reg.materialize element bound source type)
      (reg.materialize element bound source' type) := by
  induction bound generalizing source source' type with
  | zero => exact .throw (.refl _)
  | succ bound ih =>
    rw [materialize_succ, materialize_succ]
    refine (viewSource_twins asked sources element type).bind fun view view' views => ?_
    exact (View.valuesWith_twins views fun _ _ _ source source' type sources => ih sources type).bind
      fun _ _ _ => .pure trivial

end Registry

theorem Value.Twins.nestingBound (twins : value.Twins value') :
    reg.nestingBound value = reg.nestingBound value' := by
  rw [Registry.nestingBound, twins.depth, Registry.nestingBound]

/-- Attributes of one declared type for which twins are picked are both read, or neither is. -/
theorem View.attr_twins (asked : reg.Asked fun f => Alike R f f) (elements : view.element = view'.element)
    {attr attr' : Attr} (found : view.type.attr? attr.name = some attr)
    (found' : view'.type.attr? attr'.name = some attr') (types : attr.type = attr'.type)
    (picked : view.pick attr = .ok value) (picked' : view'.pick attr' = .ok value')
    (twins : value.Twins value') (texts : ∀ e e', Error.SameButTexts e e' → E e e')
    (mismatch : ∀ expected actual, E (.attributeTypeMismatch attr.name view.name expected actual)
      (.attributeTypeMismatch attr'.name view'.name expected actual)) :
    Paired R (fun _ _ => True) E (view.attr reg attr.name) (view'.attr reg attr'.name) := by
  unfold View.attr attrWith
  simp only [found, found', picked, picked', types, elements]
  change Paired R _ E (fit _ _ _ _ _) (fit _ _ _ _ _)
  rw [twins.nestingBound]
  refine fit_twins mismatch (fun source source' type sources => ?_) (wrap_twins _ twins)
  exact (Registry.materialize_twins asked _ _ sources type).mono (fun _ _ => id) texts

end Annotations
