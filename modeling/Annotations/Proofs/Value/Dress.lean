import Annotations.Proofs.Value.Same
import Annotations.Settings

/-!
How a rendering shows a value whose nested annotations have every attribute already: classes as the
texts of their names, annotations as stores, or either as it is.
-/
namespace Annotations

open Value (sameOption sameOption_iff same_annot_iff same_store_iff same_array_iff inside_induction)

namespace Rendering

variable {rendering : Rendering}

mutual

/-- A complete value as a rendering shows it. What stands inside an annotation is shown only where
annotations become stores. -/
def dress (rendering : Rendering) : Value → Value
  | .classRef name => if rendering.classesAsText then .text name else .classRef name
  | .annot type values =>
    if rendering.nestedAsStores then .store (some type) none (dressEntries rendering values)
    else .annot type values
  | .array items => .array (dressItems rendering items)
  | value => value

def dressItems (rendering : Rendering) : List Value → List Value
  | [] => []
  | item :: rest => dress rendering item :: dressItems rendering rest

def dressEntries (rendering : Rendering) : List (String × Value) → List (String × Value)
  | [] => []
  | (name, value) :: rest => (name, dress rendering value) :: dressEntries rendering rest

end

theorem dressItems_eq (items : List Value) :
    rendering.dressItems items = items.map rendering.dress := by
  induction items with
  | nil => rfl
  | cons item rest ih => rw [dressItems, ih, List.map_cons]

theorem dressEntries_eq (values : Entries Value) : rendering.dressEntries values =
    values.map fun entry => (entry.1, rendering.dress entry.2) := by
  induction values with
  | nil => rfl
  | cons entry rest ih => rw [dressEntries, ih, List.map_cons]

theorem get?_dressEntries (values : Entries Value) (name : String) :
    Entries.get? (rendering.dressEntries values) name =
      (values.get? name).map rendering.dress := by
  rw [dressEntries_eq, Entries.get?_map]

theorem dress_array (items : List Value) :
    rendering.dress (.array items) = .array (items.map rendering.dress) := by
  rw [dress, dressItems_eq]

theorem dress_annot_store (stores : rendering.nestedAsStores = true) (type : String)
    (values : Entries Value) : rendering.dress (.annot type values) =
      .store (some type) none (rendering.dressEntries values) := by
  rw [dress, if_pos stores]

theorem dress_annot_plain (annots : rendering.nestedAsStores = false) (type : String)
    (values : Entries Value) : rendering.dress (.annot type values) = .annot type values := by
  rw [dress, if_neg (by simp [annots])]

/-- Equal values are shown equally. -/
theorem dress_same {value value' : Value} (same : value.same value' = true) :
    (rendering.dress value).same (rendering.dress value') = true := by
  induction value using inside_induction generalizing value' with
  | annot type values ih =>
    cases value' with
    | annot type' values' =>
      cases shown : rendering.nestedAsStores with
      | false =>
        rw [dress_annot_plain shown, dress_annot_plain shown]
        exact same
      | true =>
        rw [dress_annot_store shown, dress_annot_store shown]
        refine same_store_iff.2 fun name => ?_
        have here := ih name
        have alike := sameOption_iff.1 ((same_annot_iff.1 same).2 name)
        rw [get?_dressEntries, get?_dressEntries]
        generalize Entries.get? values name = left at here alike ⊢
        generalize Entries.get? values' name = right at alike ⊢
        cases alike with
        | none => rfl
        | some alike => exact here _ rfl alike
    | _ => cases same
  | array items ih =>
    cases value' with
    | array items' =>
      rw [dress_array, dress_array]
      refine same_array_iff.2 ?_
      have alike := same_array_iff.1 same
      clear same
      induction alike with
      | nil => exact .nil
      | cons here _ later =>
        exact .cons (ih _ (.head _) here) (later fun item mem => ih item (.tail _ mem))
    | _ => cases same
  | classRef name =>
    cases value' with
    | classRef name' =>
      have names : name = name' := by simpa [Value.same] using same
      rw [names]
      exact Value.same_refl _
    | _ => cases same
  | _ =>
    cases value' with
    | _ => first | cases same | exact same

end Rendering
end Annotations
