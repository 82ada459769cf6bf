import Annotations.Proofs.Merge.Rereading

/-!
Filled values: no store stands in them, and each annotation in them gives every attribute of its type,
and nothing else, a value of the declared type. What an attribute lists has its value, if that was not
set. Whatever a source is made into is filled, and a filled annotation is made again into an equal one
or into none, also where alias lists are not symmetric.
-/
namespace Annotations

open Annotations.Action SynthMemo Registry
open Value (sameOption sameOption_iff sameOption_congr sameOption_refl sameOption_symm same_refl
  same_symm same_trans same_annot_iff same_array_iff inside_induction)

variable {reg : Registry} {value value' : Value} {declared : AttrType}

/-- An annotation that gives every attribute of its type, and nothing else, a value of the declared
type, and to what an attribute lists the attribute's own value, if that is not set. -/
structure Annot.Filled (reg : Registry) (annot : Annot) (decl : AnnotType)
    (groups : Entries (List String)) : Prop where
  known : reg.type annot.type = .ok decl
  mapped : reg.aliasMap annot.type = .ok groups
  full : ∀ attr ∈ decl.attrs, ∃ value, annot.value? attr.name = some value ∧
    value.conformsTo attr.type = true
  closed : ∀ name ∉ decl.attrs.map (·.name), annot.value? name = none
  aliases : ∀ attr ∈ decl.attrs, ∀ partner ∈ listed groups attr.name,
    View.isSet (annot.value? attr.name) attr.default? = true ∨
      sameOption (annot.value? attr.name) (annot.value? partner) = true

/-- No store stands in a value, and all annotations in it are filled. -/
abbrev Value.Filled (reg : Registry) : Value → Prop :=
  Throughout reg fun annot => ∃ decl groups, annot.Filled reg decl groups

/-- What is made again of filled annotations, and of annotations equal to them, equals them. -/
def Registry.Refills (reg : Registry) (nested : Source → String → Action SynthMemo Annot) : Prop :=
  ∀ annot annot' made : Annot, annot.toValue.Filled reg →
    annot'.toValue.same annot.toValue = true →
    Yields (Sound reg) (nested (.annot annot') annot'.type) (.ok made) →
    made.toValue.same annot.toValue = true

namespace View

variable {view : View} {annot annot' : Annot} {attr : Attr} {picked fitted : Value}
  {owner name : String} {nested : Source → String → Action SynthMemo Annot}

/-- Of an annotation equal to a filled one, the values that are picked equal the filled ones. -/
theorem pick_refills (of : view.Of reg (.annot annot') annot'.type)
    (same : Source.Same (.annot annot') (.annot annot))
    (filled : annot.Filled reg view.type view.aliases)
    (found : view.type.attr? attr.name = some attr) (own : annot.value? attr.name = some value)
    (h : view.pick attr = .ok picked) : picked.same value = true := by
  have raw {member : String} (mem : member ∈ aliasGroup view.aliases attr.name) :
      sameOption (view.raw member) (annot.value? member) = true := by
    obtain ⟨other, declared, _⟩ := of.member found mem
    obtain ⟨otherMem, rfl⟩ := mem_of_attr? declared
    obtain ⟨given, there, _⟩ := filled.full other otherMem
    have alike : sameOption (annot'.value? other.name) (annot.value? other.name) = true :=
      same.2 other.name
    rw [of.raw_annot declared, there]
    rw [there] at alike
    cases given' : annot'.value? other.name with
    | none =>
      rw [given'] at alike
      cases alike
    | some value' =>
      rw [given'] at alike
      exact alike
  obtain ⟨settled, went, chosen⟩ := pick_ok h
  obtain ⟨member, mem, rfl⟩ := settle_from rfl went
  have here := raw mem
  obtain ⟨other, declared, _⟩ := of.member found mem
  obtain ⟨otherMem, rfl⟩ := mem_of_attr? declared
  obtain ⟨given, there, _⟩ := filled.full other otherMem
  have taken : sameOption (some picked) (annot.value? other.name) = true := by
    cases seen : view.raw other.name with
    | none =>
      rw [seen, there] at here
      cases here
    | some found =>
      rw [seen] at here chosen
      cases chosen
      exact here
  have first : sameOption (view.raw attr.name) (some value) = true := own ▸ raw (.head _)
  rcases List.mem_cons.1 mem with itself | listed
  · rw [itself, own] at taken
    exact taken
  · rcases filled.aliases attr (mem_of_attr? found).1 _ listed with set | alike
    · rw [own, ← isSet_same first] at set
      have equal := (pick_means h).1 attr.name (.head _) set
      exact (sameOption_congr equal first).symm.trans (sameOption_refl _)
    · rw [own] at alike
      exact (sameOption_congr taken alike).trans (sameOption_refl _)

/-- Fitting a value that equals a filled one of the declared type gives a value equal to that. -/
theorem fit_refills (keeps : ∀ source type, Keeps (Sound reg) (nested source type))
    (again : reg.Refills nested) (filled : value.Filled reg)
    (conforms : value.conformsTo declared = true) (same : value'.same value = true)
    (h : Yields (Sound reg) (fit owner nested name declared value') (.ok fitted)) :
    fitted.same value = true := by
  have fits := fit_fits keeps h
  clear h
  induction declared generalizing value value' fitted with
  | array element ih =>
    obtain ⟨items', results, rfl, rfl, each⟩ := fits
    cases value with
    | array items =>
      have alike := same_array_iff.1 same
      have conforms := Value.itemsConformTo_iff.1 conforms
      refine same_array_iff.2 ?_
      have step : ∀ item ∈ items, ∀ item' result, item'.same item = true →
          Fits reg nested element item' result → result.same item = true :=
        fun item mem item' result same fits => ih (filled.item mem) (conforms item mem) same fits
      clear * - each alike step
      induction each generalizing items with
      | nil =>
        cases alike
        exact .nil
      | cons here _ later =>
        cases alike with
        | cons first rest =>
          exact .cons (step _ (.head _) _ _ first here)
            (later _ rest fun item mem => step item (.tail _ mem))
    | _ => cases conforms
  | annot type =>
    obtain ⟨source, made, stands, first, rfl⟩ := fits
    cases value with
    | annot given values =>
      cases stands with
      | annot => exact again ⟨given, values⟩ _ made filled same first
      | store _ => cases same
    | store given shown values => exact absurd .here filled.flat
    | _ => cases conforms
  | _ =>
    obtain ⟨rfl, _⟩ := fits
    obtain rfl := Value.eq_of_same (by simp) (by simp) conforms (same_symm same)
    cases value with
    | _ => first | (cases conforms; done) | exact same_refl _

/-- Where what is picked equals a filled value of the declared type, that is what is read. -/
theorem read_refills (keeps : ∀ source type, Keeps (Sound reg) (nested source type))
    (again : reg.Refills nested) (filled : value.Filled reg)
    (conforms : value.conformsTo declared = true) (same : picked.same value = true)
    (h : Yields (Sound reg) (fit owner nested name declared (wrap declared picked)) (.ok fitted)) :
    fitted.same value = true := by
  have picked := Value.conformsTo_of_same (fun _ _ _ => filled.flat) (same_symm same) conforms
  rw [wrap_of_conforms picked] at h
  exact fit_refills keeps again filled conforms same h

end View

section

variable (coherent : reg.Coherent)

include coherent

/-- A filled annotation, and any that equals it, is made again into an equal one. -/
theorem Registry.materialize_refills {element : Option Element} {bound : Nat} :
    reg.Refills (reg.materialize element bound) := by
  induction bound with
  | zero => exact fun _ _ _ _ _ made => by cases made.throw
  | succ bound ih =>
    intro annot annot' made filled same h
    obtain ⟨_, view, size, of, named, read⟩ := materialize_ok h
    cases size
    obtain ⟨types, values⟩ := same_annot_iff.1 same
    have types : annot'.type = annot.type := types
    have of : view.Of reg (.annot annot') annot'.type := of
    obtain ⟨decl, groups, own⟩ := filled.own
    cases of.type.symm.trans (types ▸ own.known)
    cases of.aliases.symm.trans (types ▸ own.mapped)
    have keeps := reg.asked_keeps.materialize element bound
    have distinct := coherent.distinct _ _ of.type
    obtain ⟨full, closed⟩ := View.valuesWith_get? distinct (fun _ => keeps) read
    refine same_annot_iff.2 ⟨named.trans types, fun name => ?_⟩
    by_cases declared : name ∈ view.type.attrs.map (·.name)
    · obtain ⟨attr, mem, rfl⟩ := List.mem_map.1 declared
      have found := attr?_of_mem distinct mem
      obtain ⟨fitted, there, read⟩ := full attr mem
      obtain ⟨picked, chosen, fits⟩ := View.attrWith_ok found read
      obtain ⟨value, given, conforms⟩ := own.full attr mem
      have alike : picked.same value = true :=
        View.pick_refills of ⟨types, values⟩ own found given chosen
      have inner := filled.given own.known mem given
      rw [there, show Entries.get? annot.values attr.name = some value from given]
      exact View.read_refills keeps ih inner conforms alike fits
    · rw [closed name declared,
        show Entries.get? annot.values name = none from own.closed name declared]
      rfl

/-- What an attribute lists is read equal to it where it is read as its default. -/
theorem View.listed_refills {view : View} {source : Source} {type : String} {attr partner : Attr}
    {value' : Value} {nested : Value → Source → String → Action SynthMemo Annot}
    (of : view.Of reg source type) (makes : Makes reg nested nested)
    (again : ∀ value, reg.Refills (nested value))
    (found : view.type.attr? attr.name = some attr)
    (there : partner.name ∈ listed view.aliases attr.name)
    (found' : view.type.attr? partner.name = some partner)
    (read : Yields (Sound reg) (view.attrWith nested attr.name) (.ok value))
    (read' : Yields (Sound reg) (view.attrWith nested partner.name) (.ok value'))
    (filled : value.Filled reg) (conforms : value.conformsTo attr.type = true)
    (unset : sameOption (some value) attr.default? = true) : value.same value' = true := by
  obtain ⟨decl, map⟩ := aliasMapOf_aliasMap of.aliases
  have matched := coherent.pairs.matched coherent.distinct
  have types := coherent.types type view.type _ _ _ attr partner of.type of.aliases there found found'
  obtain ⟨other, declared, defaults⟩ := of.member found (.tail _ there)
  cases found'.symm.trans declared
  obtain ⟨picked', chosen', fitted⟩ := attrWith_ok found' read'
  by_cases given : ∃ member ∈ aliasGroup view.aliases partner.name,
      isSet (view.raw member) partner.default? = true
  · -- what is set beside the partner is set beside the attribute as well
    obtain ⟨member, beside, set⟩ := given
    refine attrWith_picked_same makes found found' types (fun left right pick pick' => ?_) read read'
    have one := (pick_means pick).1 member (map.aliasGroup_subset matched there beside)
      (isSet_congr defaults ▸ set)
    have two := (pick_means pick').1 member beside set
    exact (sameOption_congr one two).symm.trans (sameOption_refl _)
  · have equal := (pick_means chosen').2 fun member mem => by
      by_contra set
      exact given ⟨member, mem, by simpa using set⟩
    have alike : picked'.same value = true := calc
      sameOption (some picked') (some value) = sameOption partner.default? (some value) :=
        sameOption_congr equal (sameOption_refl _)
      _ = sameOption attr.default? (some value) :=
        sameOption_congr (sameOption_symm defaults) (sameOption_refl _)
      _ = true := sameOption_symm unset
    rw [types] at conforms
    exact same_symm (read_refills (makes.keeps picked') (again picked') filled conforms alike fitted)

/-- The values of a view of any source make a filled annotation, if what nested annotations become is
filled and filled annotations are made again into equal ones. -/
theorem View.valuesWith_filled {view : View} {source : Source} {type : String} {values : Entries Value}
    {nested : Value → Source → String → Action SynthMemo Annot} (of : view.Of reg source type)
    (makes : Makes reg nested nested)
    (made : ∀ value source type annot, Yields (Sound reg) (nested value source type) (.ok annot) →
      annot.type = source.readAs type ∧ annot.toValue.Filled reg)
    (again : ∀ value, reg.Refills (nested value))
    (h : Yields (Sound reg) (view.valuesWith nested) (.ok values)) :
    (Value.annot type values).Filled reg := by
  have distinct := coherent.distinct type view.type of.type
  obtain ⟨full, closed⟩ := valuesWith_get? distinct makes.keeps h
  have fits {attr : Attr} (mem : attr ∈ view.type.attrs) {value : Value}
      (read : Yields (Sound reg) (view.attrWith nested attr.name) (.ok value)) :
      value.conformsTo attr.type = true ∧ value.Filled reg := by
    obtain ⟨picked, _, fitted⟩ := attrWith_ok (attr?_of_mem distinct mem) read
    exact fit_made (fun _ => .plain) (fun _ => .array) (makes.keeps picked) (made picked) fitted
  have own : (Annot.mk type values).Filled reg view.type view.aliases := by
    refine ⟨of.type, of.aliases, fun attr mem => ?full, closed, fun attr mem other there => ?aliases⟩
    case full =>
      obtain ⟨value, own, read⟩ := full attr mem
      exact ⟨value, own, (fits mem read).1⟩
    case aliases =>
      have found := attr?_of_mem distinct mem
      obtain ⟨partner, found', _⟩ := of.member found (.tail _ there)
      obtain ⟨mem', rfl⟩ := mem_of_attr? found'
      obtain ⟨value, own, read⟩ := full attr mem
      obtain ⟨value', own', read'⟩ := full partner mem'
      change isSet (values.get? attr.name) attr.default? = true ∨
        sameOption (values.get? attr.name) (values.get? partner.name) = true
      rw [own, own']
      refine or_iff_not_imp_left.2 fun unset => ?_
      obtain ⟨conforms, filled⟩ := fits mem read
      exact listed_refills coherent of makes again found there found' read read' filled conforms
        (by simpa [isSet] using unset)
  refine @Value.Throughout.annot reg _ ⟨type, values⟩ _ ⟨_, _, own⟩ of.type
    fun attr mem inner given => ?_
  obtain ⟨value, own', read⟩ := full attr mem
  cases own'.symm.trans given
  exact (fits mem read).2

/-- What a source is made into is filled. -/
theorem Registry.materialize_filled {element : Option Element} {bound : Nat} {source : Source}
    {type : String} {annot : Annot}
    (h : Yields (Sound reg) (reg.materialize element bound source type) (.ok annot)) :
    annot.type = source.readAs type ∧ annot.toValue.Filled reg := by
  induction bound generalizing source type annot with
  | zero => cases h.throw
  | succ bound ih =>
    obtain ⟨_, view, size, of, named, read⟩ := materialize_ok h
    cases size
    have makes : View.Makes reg (fun _ => reg.materialize element bound)
        fun _ => reg.materialize element bound :=
      ⟨fun _ => reg.asked_keeps.materialize element bound,
        fun _ => reg.asked_keeps.materialize element bound, fun _ _ => materialize_same⟩
    rw [← named] at of
    exact ⟨named, View.valuesWith_filled coherent of makes (fun _ _ _ _ => ih)
      (fun _ => materialize_refills coherent) read⟩

end

end Annotations
