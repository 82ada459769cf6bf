import Annotations.Proofs.Merge.Agreement
import Annotations.Proofs.Merge.Filled
import Annotations.Proofs.Value.Dress

/-!
Formed values: no store stands in them, and each annotation in them has a value of the declared type
for every attribute of its type, though not every value given explicitly, and gives no two aliases
values that differ only until they are made complete. Filled values are formed, and what raw rendering
makes of a formed value is filled. Filled values of one kind are told apart however they are shown.
-/
namespace Annotations

open Annotations.Action SynthMemo Registry
open Value (sameOption sameOption_iff sameOption_symm same_annot_iff same_store_iff same_array_iff
  same_refl same_symm same_trans inside_induction Throughout)

variable {reg : Registry} {rendering : Rendering} {value inner : Value}

/-- Renders a value, for nesting up to a bound. -/
def Registry.renderAt (reg : Registry) (element : Element) (rendering : Rendering) (bound : Nat) :
    Value → Action SynthMemo Value :=
  rendering.renderWith (rendering.renderNested reg element bound)

theorem Registry.renderAt_keeps (reg : Registry) (element : Element) (rendering : Rendering)
    (bound : Nat) (value : Value) :
    Keeps (Sound reg) (reg.renderAt element rendering bound value) :=
  reg.asked_keeps.renderWith (reg.asked_keeps.renderNested rendering element bound) rendering value

/-- A nested annotation is made complete where it is rendered as it is. -/
theorem Rendering.renderNested_raw (element : Element) (bound : Nat) (annot : Annot) :
    Rendering.raw.renderNested reg element bound annot =
      Annot.toValue <$> reg.materialize (some element) bound (.annot annot) annot.type := by
  cases bound with
  | zero => rfl
  | succ bound =>
    rw [map_eq_pure_bind]
    rfl

/-- A value that conforms to a type in which arrays stand around another to any depth. -/
def Value.Shaped (value : Value) (base : AttrType) : Prop :=
  ∃ declared : AttrType, declared.inmost = base ∧ value.conformsTo declared = true

/-- An annotation of a known type with a value for every attribute, of the declared type where it is
given. No two values of an alias group differ only until they are made complete. -/
structure Annot.Proper (reg : Registry) (annot : Annot) (decl : AnnotType)
    (groups : Entries (List String)) : Prop where
  known : reg.type annot.type = .ok decl
  mapped : reg.aliasMap annot.type = .ok groups
  typed : ∀ attr ∈ decl.attrs, ∀ value, annot.value? attr.name = some value →
    value.conformsTo attr.type = true
  full : ∀ attr ∈ decl.attrs, (annot.value? attr.name).or attr.default? ≠ none
  apart : ∀ element bound name,
    ¬ reg.ApartUnrendered (reg.renderAt element .raw bound) annot decl (aliasGroup groups name)

/-- No store stands in a value, and all annotations in it are proper. -/
abbrev Value.Formed (reg : Registry) : Value → Prop :=
  Throughout reg fun annot => ∃ decl groups, annot.Proper reg decl groups

/-- What raw rendering makes of a filled value equals it. -/
theorem Registry.renderAt_refills (coherent : reg.Coherent) {element : Element} {bound : Nat}
    {rendered : Value} (filled : value.Filled reg)
    (h : Yields (Sound reg) (reg.renderAt element .raw bound value) (.ok rendered)) :
    rendered.same value = true := by
  have nested := reg.asked_keeps.renderNested .raw element bound
  induction value using inside_induction generalizing rendered with
  | annot type values _ =>
    have rendered : Yields (Sound reg) (Rendering.raw.renderNested reg element bound ⟨type, values⟩)
        (.ok rendered) := h
    rw [Rendering.renderNested_raw] at rendered
    obtain ⟨made, again, rfl⟩ := rendered.map_ok
    exact materialize_refills coherent ⟨type, values⟩ _ made filled (same_refl _) again
  | array items ih =>
    unfold renderAt Rendering.renderWith at h
    have each := reg.asked_keeps.renderWith nested Rendering.raw
    obtain ⟨results, all, h⟩ := h.bind_ok (reg.asked_keeps.renderItems fun item _ => each item)
    cases h.pure
    have made := (List.forall₂_and_left items results).2
      ⟨fun _ => id, Rendering.renderItems_yields nested all⟩
    refine same_array_iff.2 (made.imp ?_).flip
    rintro item result ⟨mem, made⟩
    exact ih item mem (filled.item mem) made
  | store given shown values _ => exact absurd .here filled.flat
  | _ =>
    cases h.pure
    exact same_refl _

/-- Filled values are formed. -/
theorem Value.Filled.formed (coherent : reg.Coherent) (filled : value.Filled reg) :
    value.Formed reg := by
  refine filled.imp ?_
  rintro annot ⟨decl, groups, own⟩ inside
  refine ⟨decl, groups, own.known, own.mapped, fun attr mem value given => ?_,
    fun attr mem absent => ?_, fun element bound name => ?_⟩
  · obtain ⟨value', given', conforms⟩ := own.full attr mem
    cases given.symm.trans given'
    exact conforms
  · obtain ⟨value, given, _⟩ := own.full attr mem
    rw [given] at absent
    cases absent
  · rintro ⟨first, mem, second, mem', left, right, _, _, given, given', _, _, differ, shown, shown',
      made, made', alike⟩
    have one := renderAt_refills coherent (inside _ _ _ own.known mem given) made
    have two := renderAt_refills coherent (inside _ _ _ own.known mem' given') made'
    cases (same_trans (same_symm one) (same_trans alike two)).symm.trans differ

/-- Whether an annotation is of a type without aliases and has a value for every attribute, of the
declared type where it is given. -/
def Annot.isPlain (reg : Registry) (annot : Annot) : Bool :=
  match reg.type annot.type, reg.aliasMap annot.type with
  | .ok decl, .ok [] => decl.attrs.all fun attr =>
    match annot.value? attr.name with
    | some value => value.conformsTo attr.type
    | none => attr.default?.isSome
  | _, _ => false

namespace Value

mutual

/-- Whether no store is inside a value and all annotations inside it are plain. -/
def isPlain (reg : Registry) : Value → Bool
  | .annot type values => Annot.isPlain reg ⟨type, values⟩ && entriesPlain reg values
  | .store _ _ _ => false
  | .array items => itemsPlain reg items
  | _ => true

def itemsPlain (reg : Registry) : List Value → Bool
  | [] => true
  | item :: rest => isPlain reg item && itemsPlain reg rest

def entriesPlain (reg : Registry) : List (String × Value) → Bool
  | [] => true
  | (_, value) :: rest => isPlain reg value && entriesPlain reg rest

end

theorem itemsPlain_iff {items : List Value} :
    itemsPlain reg items = true ↔ ∀ item ∈ items, item.isPlain reg = true := by
  induction items with
  | nil => simp [itemsPlain]
  | cons item rest ih => rw [itemsPlain, Bool.and_eq_true, ih, List.forall_mem_cons]

theorem isPlain_of_entriesPlain {entries : Entries Value} (h : entriesPlain reg entries = true)
    {name : String} {value : Value} (own : entries.get? name = some value) :
    value.isPlain reg = true := by
  induction entries with
  | nil => cases own
  | cons entry rest ih =>
    obtain ⟨key, first⟩ := entry
    rw [entriesPlain, Bool.and_eq_true] at h
    rw [Entries.get?_cons] at own
    split at own
    · cases own
      exact h.1
    · exact ih h.2 own

end Value

/-- Where no attribute has aliases, a plain annotation is proper. -/
theorem Annot.Proper.of_isPlain {annot : Annot} (h : annot.isPlain reg = true) :
    ∃ decl, annot.Proper reg decl [] := by
  unfold isPlain at h
  split at h
  · rename_i decl known mapped
    have each := List.all_eq_true.1 h
    refine ⟨decl, known, mapped, fun attr mem value own => ?_, fun attr mem absent => ?_,
      fun element bound name => ?_⟩
    · have here := each attr mem
      rw [own] at here
      exact here
    · have here := each attr mem
      obtain ⟨own, default⟩ := Option.or_eq_none_iff.1 absent
      rw [own, default] at here
      cases here
    · rintro ⟨first, _, second, _, left, right, mem, mem', own, own', _, _, differ, _⟩
      cases List.mem_singleton.1 mem
      rw [List.mem_singleton.1 mem'] at own'
      cases own.symm.trans own'
      rw [Value.same_refl] at differ
      cases differ
  · cases h

/-- Plain values are formed. -/
theorem Value.Formed.of_isPlain {value : Value} (h : value.isPlain reg = true) : value.Formed reg := by
  induction value using inside_induction with
  | annot type values ih =>
    rw [isPlain, Bool.and_eq_true] at h
    obtain ⟨decl, proper⟩ := Annot.Proper.of_isPlain h.1
    exact @Throughout.annot reg _ ⟨type, values⟩ decl ⟨decl, [], proper⟩ proper.known
      fun attr _ inner own => ih _ _ own (isPlain_of_entriesPlain h.2 own)
  | store given shown values _ => cases h
  | array items ih =>
    rw [isPlain] at h
    exact .array fun item mem => ih item mem (itemsPlain_iff.1 h item mem)
  | _ => exact .plain (by simp) (by simp) (by simp)

/-- Every declared default conforms to its declared type and is formed. -/
def Registry.DefaultsFormed (reg : Registry) : Prop :=
  ∀ type decl attr value, reg.type type = .ok decl → attr ∈ decl.attrs →
    attr.default? = some value → value.conformsTo attr.type = true ∧ value.Formed reg

/-- What raw rendering makes of a value that holds no store is filled and conforms to what the value
conforms to. -/
theorem Registry.renderAt_filled (coherent : reg.Coherent) {element : Element} {bound : Nat}
    {rendered : Value} (flat : ∀ given shown values, ¬ value.Holds (.store given shown values))
    (h : Yields (Sound reg) (reg.renderAt element .raw bound value) (.ok rendered)) :
    rendered.Filled reg ∧
      ∀ declared, value.conformsTo declared = true → rendered.conformsTo declared = true := by
  have nested := reg.asked_keeps.renderNested .raw element bound
  induction value using inside_induction generalizing rendered with
  | annot type values _ =>
    have rendered : Yields (Sound reg) (Rendering.raw.renderNested reg element bound ⟨type, values⟩)
        (.ok rendered) := h
    rw [Rendering.renderNested_raw] at rendered
    obtain ⟨annot, made, rfl⟩ := rendered.map_ok
    obtain ⟨named, filled⟩ := materialize_filled coherent made
    refine ⟨filled, fun declared conforms => ?_⟩
    cases declared with
    | annot name => simpa [Value.conformsTo, named, Source.readAs] using conforms
    | _ => cases conforms
  | array items ih =>
    unfold renderAt Rendering.renderWith at h
    have each := reg.asked_keeps.renderWith nested Rendering.raw
    obtain ⟨results, all, h⟩ := h.bind_ok (reg.asked_keeps.renderItems fun item _ => each item)
    cases h.pure
    have made : ∀ result ∈ results, ∃ item ∈ items, result.Filled reg ∧
        ∀ declared, item.conformsTo declared = true → result.conformsTo declared = true := by
      intro result mem
      obtain ⟨item, inside, first⟩ :=
        partner_of_forall₂ (Rendering.renderItems_yields nested all).flip mem
      exact ⟨item, inside, ih item inside (fun _ _ _ held => flat _ _ _ (.item inside held)) first⟩
    refine ⟨.array fun result mem => ?_, fun declared conforms => ?_⟩
    · obtain ⟨_, _, filled, _⟩ := made result mem
      exact filled
    · cases declared with
      | array element =>
        refine Value.itemsConformTo_iff.2 fun result mem => ?_
        obtain ⟨item, inside, _, fits⟩ := made result mem
        exact fits element (Value.itemsConformTo_iff.1 conforms item inside)
      | _ => cases conforms
  | store given shown values _ => exact absurd .here (flat _ _ _)
  | classRef name =>
    cases h.pure
    exact ⟨.plain (by simp [Rendering.raw]) (by simp [Rendering.raw]) (by simp [Rendering.raw]),
      fun _ => id⟩
  | _ =>
    cases h.pure
    exact ⟨.plain (by simp) (by simp) (by simp), fun _ => id⟩

namespace Value.Shaped

variable {base : AttrType}

/-- What nests arrays around a type is an array or conforms to the type. -/
theorem array_or_conforms (h : value.Shaped base) :
    (∃ items, value = .array items) ∨ value.conformsTo base = true := by
  obtain ⟨declared, rfl, conforms⟩ := h
  cases declared with
  | array element =>
    cases value with
    | array items => exact .inl ⟨items, rfl⟩
    | _ => cases conforms
  | _ => exact .inr conforms

theorem item {items : List Value} (h : (Value.array items).Shaped base) {item : Value}
    (mem : item ∈ items) : item.Shaped base := by
  obtain ⟨declared, rfl, conforms⟩ := h
  cases declared with
  | array element => exact ⟨element, rfl, itemsConformTo_iff.1 conforms item mem⟩
  | _ => cases conforms

/-- What is no array conforms to the type itself. -/
theorem conforms (h : value.Shaped base) (single : ∀ items, value ≠ .array items) :
    value.conformsTo base = true :=
  h.array_or_conforms.resolve_left fun ⟨items, same⟩ => single items same

end Value.Shaped

namespace Rendering

variable {value' : Value} {base : AttrType}

/-- Only arrays are shown as arrays. -/
theorem array_of_dress {items : List Value}
    (same : (rendering.dress value).same (rendering.dress (.array items)) = true) :
    ∃ items', value = .array items' := by
  rw [dress_array] at same
  cases value with
  | array items' => exact ⟨items', rfl⟩
  | classRef name =>
    rw [dress] at same
    split at same <;> cases same
  | annot type values =>
    rw [dress] at same
    split at same <;> cases same
  | _ => cases same

/-- Beside what is shown as no array a value conforms to the type itself. -/
theorem conforms_of_dress (shaped : value'.Shaped base) (single : ∀ items, value ≠ .array items)
    (same : (rendering.dress value).same (rendering.dress value') = true) :
    value'.conformsTo base = true := by
  refine shaped.conforms fun items array => ?_
  subst array
  obtain ⟨items', array⟩ := array_of_dress same
  exact single items' array

/-- Filled values that conform to one type up to arrays around it are equal if they are shown
equally. -/
theorem same_of_dress (filled : value.Filled reg) (filled' : value'.Filled reg)
    (shaped : value.Shaped base) (shaped' : value'.Shaped base)
    (same : (rendering.dress value).same (rendering.dress value') = true) :
    value.same value' = true := by
  induction value using inside_induction generalizing value' base with
  | array items ih =>
    obtain ⟨items', rfl⟩ := array_of_dress (Value.same_symm same)
    rw [dress_array, dress_array] at same
    have all := same_array_iff.1 same
    rw [List.forall₂_map_left_iff, List.forall₂_map_right_iff] at all
    refine same_array_iff.2 ?_
    have step : ∀ item ∈ items, ∀ item' ∈ items',
        (rendering.dress item).same (rendering.dress item') = true → item.same item' = true :=
      fun item mem item' mem' => ih item mem (filled.item mem) (filled'.item mem')
        (shaped.item mem) (shaped'.item mem')
    clear * - all step
    induction all with
    | nil => exact .nil
    | cons here _ later =>
      exact .cons (step _ (.head _) _ (.head _) here)
        (later fun item mem item' mem' => step item (.tail _ mem) item' (.tail _ mem'))
  | annot type values ih =>
    have own := shaped.conforms (by simp)
    have theirs := conforms_of_dress shaped' (by simp) same
    cases base with
    | annot name =>
      cases value' with
      | annot type' values' =>
        obtain rfl : type = name := by simpa [Value.conformsTo] using own
        obtain rfl : type' = type := by simpa [Value.conformsTo] using theirs
        cases shown : rendering.nestedAsStores with
        | false =>
          rw [dress_annot_plain shown, dress_annot_plain shown] at same
          exact same
        | true =>
          rw [dress_annot_store shown, dress_annot_store shown] at same
          have all := same_store_iff.1 same
          have filled : (Annot.mk _ values).toValue.Filled reg := filled
          have filled' : (Annot.mk _ values').toValue.Filled reg := filled'
          obtain ⟨decl, _, complete⟩ := filled.own
          obtain ⟨decl', _, complete'⟩ := filled'.own
          cases complete.known.symm.trans complete'.known
          refine same_annot_iff.2 ⟨rfl, fun name => ?_⟩
          by_cases declared : name ∈ decl.attrs.map (·.name)
          · obtain ⟨attr, mem, rfl⟩ := List.mem_map.1 declared
            obtain ⟨left, own, fits⟩ := complete.full attr mem
            obtain ⟨right, own', fits'⟩ := complete'.full attr mem
            have here := all attr.name
            have own : Entries.get? values attr.name = some left := own
            have own' : Entries.get? values' attr.name = some right := own'
            rw [get?_dressEntries, get?_dressEntries, own, own'] at here
            rw [own, own']
            exact ih _ _ own (filled.given complete.known mem own)
              (filled'.given complete'.known mem own') ⟨attr.type, rfl, fits⟩
              ⟨attr.type, rfl, fits'⟩ here
          · rw [show Entries.get? values name = none from complete.closed name declared,
              show Entries.get? values' name = none from complete'.closed name declared]
            rfl
      | store given shown values' => exact absurd .here filled'.flat
      | _ => cases theirs
    | _ => cases own
  | store given shown values _ => exact absurd .here filled.flat
  | classRef name =>
    have own := shaped.conforms (by simp)
    have theirs := conforms_of_dress shaped' (by simp) same
    cases base with
    | classRef =>
      cases value' with
      | classRef name' =>
        rw [dress, dress] at same
        split at same <;> simpa [Value.same] using same
      | _ => cases theirs
    | _ => cases own
  | _ =>
    have own := shaped.conforms (by simp)
    have theirs := conforms_of_dress shaped' (by simp) same
    cases base with
    | _ =>
      first
      | (cases own; done)
      | cases value' with
        | _ => first | exact same | cases theirs

end Rendering
end Annotations
