import Annotations.Proofs.Action.Yields
import Annotations.Proofs.Merge.Questions

/-!
What fitting a value to a declared type comes to: an array is fitted item by item, what stands for an
annotation of a nested type becomes what is made of it, and the rest is kept, but that a class may be
given by its name.
-/
namespace Annotations

open Annotations.Action SynthMemo

variable {reg : Registry}

namespace Value

/-- A value that stands for an annotation of a type, itself or as a store. -/
inductive Stands (type : String) : Source → Value → Prop
  | annot {values : Entries Value} : Stands type (.annot ⟨type, values⟩) (.annot type values)
  | store {given shown : Option String} {values : Entries Value} : given.all (· == type) = true →
    Stands type (.store ⟨given, shown, values⟩) (.store given shown values)

/-- Whatever type a value stands for, it is one source. -/
theorem Stands.unique {value : Value} {type type' : String} {source source' : Source}
    (h : value.Stands type source) (h' : value.Stands type' source') : source = source' := by
  cases h <;> cases h' <;> rfl

end Value

namespace View

variable {nested : Source → String → Action SynthMemo Annot} {owner name : String}
  {declared : AttrType} {value fitted : Value}

/-- What fits a declared type that nests nothing: a class may be given by its name. -/
def plain : AttrType → Value → Value
  | .classRef, .text content => .classRef content
  | _, value => value

/-- A value comes to fit a declared type as another, with what is made of nested annotations. -/
def Fits (reg : Registry) (nested : Source → String → Action SynthMemo Annot) :
    AttrType → Value → Value → Prop
  | .array element, value, fitted => ∃ items results, value = .array items ∧
      fitted = .array results ∧ List.Forall₂ (Fits reg nested element) items results
  | .annot type, value, fitted => ∃ source annot, value.Stands type source ∧
      Yields (Sound reg) (nested source type) (.ok annot) ∧ fitted = annot.toValue
  | declared, value, fitted => fitted = plain declared value ∧ fitted.conformsTo declared = true

section

variable (keeps : ∀ source type, Keeps (Sound reg) (nested source type))

include keeps

theorem fits_of_items
    (items : ∀ element, declared = .array element → ∀ item result,
      Yields (Sound reg) (fit owner nested name element item) (.ok result) →
        Fits reg nested element item result)
    (h : Yields (Sound reg) (fit owner nested name declared value) (.ok fitted)) :
    Fits reg nested declared value fitted := by
  revert h
  fun_cases fit owner nested name declared value with
  | case1 element given =>
    intro h
    have each := fun item => reg.asked_keeps.fit keeps owner name element item
    obtain ⟨results, made, h⟩ := h.bind_ok (reg.asked_keeps.mapM each given)
    cases h.pure
    exact ⟨given, results, rfl, rfl, (made.mapM_ok each).imp (items element rfl)⟩
  | case2 content =>
    intro h
    cases h.pure
    exact ⟨rfl, rfl⟩
  | case3 type values =>
    intro h
    obtain ⟨annot, made, h⟩ := h.bind_ok (keeps _ _)
    cases h.pure
    exact ⟨_, annot, .annot, made, rfl⟩
  | case5 type given shown values fits =>
    intro h
    obtain ⟨annot, made, h⟩ := h.bind_ok (keeps _ _)
    cases h.pure
    exact ⟨_, annot, .store fits, made, rfl⟩
  | case7 declared value noArray noClass noAnnot noStore conforms =>
    intro h
    cases h.pure
    cases declared with
    | array element =>
      cases value with
      | array given => exact (noArray element given rfl rfl).elim
      | _ => cases conforms
    | annot type =>
      cases value with
      | annot given values => exact (noAnnot type given values rfl rfl).elim
      | store given shown values => exact (noStore type given shown values rfl rfl).elim
      | _ => cases conforms
    | classRef =>
      cases value with
      | text content => exact (noClass content rfl rfl).elim
      | _ => exact ⟨rfl, conforms⟩
    | _ => exact ⟨rfl, conforms⟩
  | case4 | case6 | case8 =>
    intro h
    cases h.throw

/-- What fitting comes to. -/
theorem fit_fits (h : Yields (Sound reg) (fit owner nested name declared value) (.ok fitted)) :
    Fits reg nested declared value fitted := by
  induction declared generalizing value fitted with
  | array element ih =>
    refine fits_of_items keeps (fun inner same item result first => ?_) h
    cases same
    exact ih first
  | _ => exact fits_of_items keeps (fun inner same => by cases same) h

end

end View
end Annotations
