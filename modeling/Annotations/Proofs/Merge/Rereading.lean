import Annotations.Proofs.Action.Endings
import Annotations.Proofs.Merge.Whole

/-!
Reading again what is resolved already: where all declarations are sound, a view of a resolved source
with resolved values succeeds and reads equal values, and a resolved annotation is made into an equal
one.
-/
namespace Annotations

open Annotations.Action SynthMemo Registry
open Value (sameOption sameOption_congr sameOption_refl same_refl same_symm)

variable {reg : Registry}

namespace Registry

section

variable (valid : reg.AliasesValid) (nested : reg.NestedKnown)

include valid nested

theorem isSynthesizable_ok {type : String} {decl : AnnotType} (known : reg.type type = .ok decl) :
    Ensures (Sound reg) (reg.isSynthesizable type) fun _ => True := by
  intro memo sound
  obtain ⟨kept, means⟩ := isSynthesizable_means type memo sound
  cases outcome : (reg.isSynthesizable type memo).1 with
  | ok answer => exact ⟨answer, rfl, trivial, kept⟩
  | error e =>
    rw [outcome] at means
    cases known.symm.trans (means.own valid nested)

theorem viewAnnot_ok {annot : Annot} {element : Option Element} {decl : AnnotType}
    {groups : Entries (List String)} (known : reg.type annot.type = .ok decl)
    (mapped : reg.aliasMap annot.type = .ok groups) :
    Ensures (Sound reg) (reg.viewAnnot annot element) (·.Of reg (.annot annot) annot.type) := by
  refine .of_yields ?_ fun view h => viewAnnot_of h
  refine (Ensures.lift known trivial).bind (P := fun _ => True) fun _ _ => ?_
  refine (isSynthesizable_ok valid nested known).bind fun answer _ => ?_
  cases answer with
  | true =>
    have maps := reg.recallAliasMap_computes annot.type
    rw [mapped] at maps
    exact (Ensures.of_computes maps trivial).bind (P := fun _ => True) fun _ _ => .pure trivial
  | false => exact .pure trivial

end

theorem viewStore_ok {store : Store} {type : String} {element : Option Element}
    {decl : AnnotType} {groups : Entries (List String)} (known : reg.type type = .ok decl)
    (mapped : reg.aliasMap type = .ok groups) :
    Ensures (Sound reg) (reg.viewStore store type element) (·.Of reg (.store store) type) := by
  refine .of_yields ?_ fun view h => viewStore_of h
  have maps := reg.recallAliasMap_computes type
  rw [mapped] at maps
  exact (Ensures.lift known trivial).bind (P := fun _ => True) fun _ _ =>
    (Ensures.of_computes maps trivial).bind (P := fun _ => True) fun _ _ => .pure trivial

end Registry

namespace Value

variable {value inner : Value}

theorem Holds.depth_le (h : value.Holds inner) : inner.depth ≤ value.depth := by
  induction h with
  | here => exact Nat.le_refl _
  | item mem _ ih => exact Nat.le_trans ih (depth_le_itemsDepth mem)

end Value

namespace View

variable {view : View} {source : Source} {type owner name : String} {attr : Attr} {value : Value}
  {declared : AttrType}

/-- Where the values of aliases are equal, going through them ends. -/
theorem settle_ok {default? value : Option Value} {partners : List String} {declaredBy : String}
    (agree : ∀ partner ∈ partners, sameOption value (view.raw partner) = true) :
    ∃ result, view.settle default? partners value declaredBy = .ok result := by
  induction partners generalizing value declaredBy with
  | nil => exact ⟨value, rfl⟩
  | cons partner rest ih =>
    have here := agree partner (.head rest)
    have later : ∀ other ∈ rest, sameOption value (view.raw other) = true :=
      fun other mem => agree other (.tail partner mem)
    unfold settle
    simp only [here, Bool.not_true, Bool.and_false, Bool.false_eq_true, if_false]
    split
    · exact ih fun other mem => (sameOption_congr here (sameOption_refl _)).symm.trans (later other mem)
    · exact ih later

theorem raw_of_value (of : view.Of reg source type) (h : source.value? name = some value) :
    view.raw name = some value := by
  unfold raw
  rw [of.source]
  cases source with
  | annot annot =>
    simp only [Source.value?] at h
    simp [h]
  | store store => exact h

/-- What is picked from a resolved source is what some member of the group is given. It conforms to
the declared type and equals the attribute's own value. -/
theorem pick_resolved (of : view.Of reg source type)
    (resolved : source.Resolved reg type view.type view.aliases)
    (flat : ∀ name value, source.value? name = some value → ∀ given shown values,
      ¬ value.Holds (.store given shown values))
    (found : view.type.attr? attr.name = some attr) :
    ∃ picked own member, view.pick attr = .ok picked ∧ source.value? attr.name = some own ∧
      source.value? member = some picked ∧ picked.same own = true ∧
      picked.conformsTo attr.type = true := by
  obtain ⟨own, ownGiven, conforms⟩ := resolved.full _ attr found
  have given {member : String} (mem : member ∈ aliasGroup view.aliases attr.name) :
      ∃ value, source.value? member = some value ∧ own.same value = true := by
    obtain ⟨other, declared, _⟩ := of.member found mem
    obtain ⟨value, there, _⟩ := resolved.full member other declared
    refine ⟨value, there, ?_⟩
    rcases List.mem_cons.1 mem with rfl | listed
    · cases ownGiven.symm.trans there
      exact same_refl own
    · have same := resolved.aliases _ _ listed
      rwa [ownGiven, there] at same
  obtain ⟨result, went⟩ : ∃ result, view.settle attr.default? (listed view.aliases attr.name)
      (view.raw attr.name) attr.name = .ok result := by
    refine settle_ok fun partner mem => ?_
    obtain ⟨value, there, same⟩ := given (.tail _ mem)
    rw [raw_of_value of ownGiven, raw_of_value of there]
    exact same
  obtain ⟨member, mem, rfl⟩ := settle_from rfl went
  obtain ⟨picked, there, same⟩ := given mem
  rw [raw_of_value of there] at went
  refine ⟨picked, own, member, ?_, ownGiven, there, same_symm same,
    Value.conformsTo_of_same (flat _ _ ownGiven) same conforms⟩
  unfold pick
  rw [show view.settle attr.default? ((view.aliases.get? attr.name).getD []) (view.raw attr.name)
    attr.name = .ok (some picked) from went]
  rfl

theorem wrap_of_conforms (h : value.conformsTo declared = true) : wrap declared value = value := by
  cases declared with
  | array element =>
    cases value with
    | array items => rfl
    | _ => cases h
  | _ => rfl

theorem fit_plain {nested : Source → String → Action SynthMemo Annot}
    (single : ∀ element, declared ≠ .array element) (flat : ∀ type, declared ≠ .annot type)
    (conforms : value.conformsTo declared = true) :
    fit owner nested name declared value = pure value := by
  unfold fit
  split
  · exact absurd rfl (single _)
  · cases conforms
  · exact absurd rfl (flat _)
  · exact absurd rfl (flat _)
  · rw [if_pos conforms]

/-- A value that conforms to a declared type and in which no store stands is fitted to an equal one,
if nested annotations are made into equal ones. -/
theorem fit_again {nested : Source → String → Action SynthMemo Annot}
    (conforms : value.conformsTo declared = true)
    (flat : ∀ given shown values, ¬ value.Holds (.store given shown values))
    (again : ∀ type values, value.Holds (.annot type values) →
      Ensures (Sound reg) (nested (.annot ⟨type, values⟩) type)
        (·.toValue.same (.annot type values) = true)) :
    Ensures (Sound reg) (fit owner nested name declared value) (·.same value = true) := by
  induction declared generalizing value with
  | array element ih =>
    cases value with
    | array items =>
      unfold fit
      refine (Ensures.mapM fun item mem => ?_).bind fun results made =>
        .pure (Value.same_array_iff.2 made.flip)
      exact (ih (Value.itemsConformTo_iff.1 conforms item mem)
        (fun _ _ _ held => flat _ _ _ (.item mem held))
        fun _ _ held => again _ _ (.item mem held)).mono fun _ same => same
    | _ => cases conforms
  | annot name =>
    cases value with
    | annot type values =>
      have named : type = name := by simpa [Value.conformsTo] using conforms
      subst named
      simp only [fit, if_true]
      exact (again type values .here).bind fun made same => .pure same
    | store given shown values => exact absurd .here (flat _ _ _)
    | _ => cases conforms
  | _ =>
    rw [fit_plain (by simp) (by simp) conforms]
    exact .pure (same_refl value)

section

variable (of : view.Of reg source type)
  (resolved : source.Resolved reg type view.type view.aliases)
  (inside : ∀ name value, source.value? name = some value → value.Resolved reg)
  {nested : Value → Source → String → Action SynthMemo Annot}
  (keeps : ∀ value source type, Keeps (Sound reg) (nested value source type))
  (again : ∀ name value, source.value? name = some value → ∀ type values,
    value.Holds (.annot type values) →
    Ensures (Sound reg) (nested value (.annot ⟨type, values⟩) type)
      (·.toValue.same (.annot type values) = true))

include of resolved inside again

theorem attrWith_again (found : view.type.attr? name = some attr) :
    Ensures (Sound reg) (view.attrWith nested name) fun value =>
      sameOption (some value) (source.value? name) = true := by
  obtain ⟨_, rfl⟩ := mem_of_attr? found
  obtain ⟨picked, own, member, chosen, given, there, same, conforms⟩ :=
    pick_resolved of resolved (fun _ _ own _ _ _ => (inside _ _ own).flat) found
  unfold attrWith
  simp only [found]
  refine (Ensures.lift chosen (P := (· = picked)) rfl).bind fun value here => ?_
  subst here
  rw [wrap_of_conforms conforms]
  refine (fit_again conforms (fun _ _ _ => (inside _ _ there).flat)
    (again member value there)).mono fun fitted equal => ?_
  rw [given]
  exact Value.same_trans equal same

include keeps

/-- A view of a resolved source reads the values that the source gives. -/
theorem valuesWith_again : Ensures (Sound reg) (view.valuesWith nested) fun values =>
    ∀ name, sameOption (values.get? name) (source.value? name) = true := by
  have reads {name : String} {attr : Attr} (found : view.type.attr? name = some attr) :=
    attrWith_again of resolved inside again found
  refine .of_yields ?_ fun values read name => ?_
  · refine (Ensures.mapM (R := fun _ _ => True) fun attr mem => ?_).bind fun _ _ => .pure trivial
    obtain ⟨other, found⟩ := attr?_of_name (List.mem_map.2 ⟨attr, mem, rfl⟩)
    exact (reads found).bind fun _ _ => .pure trivial
  · obtain ⟨full, closed⟩ := valuesWith_reads keeps read
    cases found : view.type.attr? name with
    | some attr =>
      obtain ⟨value, held, own⟩ := full name attr found
      rw [held]
      exact (reads found).met own
    | none =>
      rw [closed name found, resolved.closed name found]
      rfl

end

end View

section

variable (valid : reg.AliasesValid) (known : reg.NestedKnown)

include valid known

/-- A resolved annotation is made into an equal one. -/
theorem Registry.materialize_again {element : Option Element} {bound : Nat} {type : String}
    {values : Entries Value} (resolved : (Value.annot type values).Resolved reg)
    (deep : (Value.annot type values).depth ≤ bound) :
    Ensures (Sound reg) (reg.materialize element bound (.annot ⟨type, values⟩) type)
      (·.toValue.same (.annot type values) = true) := by
  induction bound generalizing type values with
  | zero => exact absurd deep (by simp [Value.depth])
  | succ bound ih =>
    obtain ⟨decl, groups, own⟩ := @Value.Throughout.own _ _ ⟨type, values⟩ resolved
    unfold materialize
    refine (viewAnnot_ok valid known own.known own.mapped).bind fun view of => ?_
    cases of.type.symm.trans own.known
    cases of.aliases.symm.trans own.mapped
    have inside {name : String} {value : Value} (there : values.get? name = some value) :
        value.Resolved reg ∧ value.depth ≤ bound := by
      refine ⟨own.inside resolved there, Nat.le_of_lt_succ (Nat.lt_of_lt_of_le
        (Nat.lt_succ_of_le (Value.depth_le_entriesDepth there)) deep)⟩
    refine (View.valuesWith_again of own (fun _ _ there => (inside there).1)
      (fun _ => reg.asked_keeps.materialize element bound)
      fun name value there type values held => ?_).bind
      fun made same => .pure (Value.same_annot_iff.2 ⟨of.named, same⟩)
    exact ih ((inside there).1.of_holds held) (Nat.le_trans held.depth_le (inside there).2)

section

variable {view : View} {source : Source} {type : String}
  (inside : ∀ name value, source.value? name = some value → value.Resolved reg)

include inside

/-- What stands in a resolved value is made into an equal annotation. -/
theorem View.nested_again (name : String) (value : Value) (own : source.value? name = some value)
    (type : String) (values : Entries Value) (held : value.Holds (.annot type values)) :
    Ensures (Sound reg) (reg.materialize view.element (reg.nestingBound value)
      (.annot ⟨type, values⟩) type) (·.toValue.same (.annot type values) = true) := by
  apply materialize_again valid known ((inside name value own).of_holds held)
  have shallow := held.depth_le
  unfold nestingBound
  omega

variable (of : view.Of reg source type)
  (resolved : source.Resolved reg type view.type view.aliases)

include of resolved

/-- An attribute of a view of a resolved source with resolved values is read as what the source
gives. -/
theorem View.attr_again {name : String} {attr : Attr} (found : view.type.attr? name = some attr) :
    Ensures (Sound reg) (view.attr reg name) fun value =>
      Value.sameOption (some value) (source.value? name) = true :=
  View.attrWith_again of resolved inside (View.nested_again valid known inside) found

/-- A view of a resolved source with resolved values reads the values that the source gives. -/
theorem View.values_again : Ensures (Sound reg) (view.values reg) fun values =>
    ∀ name, sameOption (values.get? name) (source.value? name) = true :=
  View.valuesWith_again of resolved inside
    (fun value => reg.asked_keeps.materialize view.element (reg.nestingBound value))
    (View.nested_again valid known inside)

end

end

/-- Over an orderly registry, a view of a resolved store with resolved values reads an equal store. -/
theorem View.toStore_again (orderly : reg.Orderly) {view : View} {store : Store} {type : String}
    (of : view.Of reg (.store store) type)
    (resolved : Source.Resolved reg type view.type view.aliases (.store store))
    (inside : ∀ name value, store.get? name = some value → value.Resolved reg) :
    Ensures (Sound reg) (view.toStore reg) (·.same store = true) := by
  have inside : ∀ name value, Source.value? (.store store) name = some value → value.Resolved reg :=
    inside
  exact (View.values_again orderly.valid orderly.known inside of resolved).bind
    fun _ same => .pure (Value.same_store_iff.2 same)

end Annotations
