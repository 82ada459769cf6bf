import Annotations.Proofs.Merge.Clashes
import Annotations.Proofs.Value.Shape

/-!
Whole values: no store stands in them, and each annotation in them gives every attribute of its type,
and nothing else, a value of the declared type. Whatever a source is made into is whole. Over a
registry whose aliases are aligned it is resolved: aliases have equal values as well.
-/
namespace Annotations

open Annotations.Action SynthMemo Registry
open Value (sameOption)

namespace Registry

/-- Attributes of one type that are aliases declare the same attribute type. -/
def AliasTypes (reg : Registry) : Prop :=
  ∀ type decl groups a b left right, reg.type type = .ok decl → reg.aliasMap type = .ok groups →
    b ∈ listed groups a → decl.attr? a = some left → decl.attr? b = some right →
    left.type = right.type

/-- No type that declares an alias is meta-present on itself. -/
def AliasedApart (reg : Registry) : Prop :=
  ∀ type decl attr aim, reg.type type = .ok decl → attr ∈ decl.attrs → attr.aliasFor = some aim →
    reg.isMetaPresent type type = false

theorem aliasTypes_of_entries {reg : Registry}
    (h : ∀ entry ∈ reg.types, ∀ groups ∈ (reg.aliasMap entry.1).toOption, ∀ group ∈ groups,
      ∀ partner ∈ group.2,
        (entry.2.attr? group.1).map (·.type) = (entry.2.attr? partner).map (·.type)) :
    reg.AliasTypes := by
  intro type decl groups a b left right known mapped there found found'
  cases own : groups.get? a with
  | none =>
    rw [listed, own] at there
    cases there
  | some names =>
    rw [listed, own] at there
    have same := h _ (mem_of_type known) groups (by rw [mapped]; rfl) _ (Entries.mem_of_get? own) b there
    simpa [found, found'] using same

theorem aliasedApart_of_entries {reg : Registry}
    (h : ∀ entry ∈ reg.types, ∀ attr ∈ entry.2.attrs, attr.aliasFor.isSome = true →
      reg.isMetaPresent entry.1 entry.1 = false) : reg.AliasedApart := by
  intro type decl attr aim known mem aliased
  exact h _ (mem_of_type known) attr mem (by rw [aliased]; rfl)

/-- What makes alias groups the same from each of their members: distinct names, valid aliases, pairs
that name each other, aliases of one attribute type, and types with aliases that are not
meta-present on themselves. All nested types are known. -/
structure Orderly (reg : Registry) : Prop where
  distinct : reg.DistinctAttrs
  valid : reg.AliasesValid
  pairs : reg.PairsMutual
  types : reg.AliasTypes
  apart : reg.AliasedApart
  known : reg.NestedKnown

/-- What alias groups need to be read alike in every rendering: all that makes a registry orderly, but
that types with aliases may be meta-present on themselves. -/
structure Coherent (reg : Registry) : Prop where
  distinct : reg.DistinctAttrs
  valid : reg.AliasesValid
  pairs : reg.PairsMutual
  types : reg.AliasTypes
  known : reg.NestedKnown

/-- Aliases of each other are of one attribute type and have one group. -/
structure Aligned (reg : Registry) : Prop where
  types : reg.AliasTypes
  groups : ∀ type groups a b, reg.aliasMap type = .ok groups → b ∈ listed groups a →
    ∀ c, c ∈ aliasGroup groups a ↔ c ∈ aliasGroup groups b

end Registry

variable {reg : Registry}

/-- In an orderly registry every member of an alias group has the same group. -/
theorem Registry.Orderly.mem_aliasGroup_iff (orderly : reg.Orderly) {type : String}
    {decl : AnnotType} {groups : Entries (List String)} (map : reg.AliasMapOf type decl groups)
    {a b c : String} (mem : b ∈ aliasGroup groups a) :
    c ∈ aliasGroup groups a ↔ c ∈ aliasGroup groups b := by
  rcases List.mem_cons.1 mem with rfl | there
  · rfl
  · obtain ⟨target, link, found, _⟩ : ∃ target, reg.Aims (type, a) target := by
      rcases (map.mem_iff (map.source_declared there)).1 there with aims | ⟨⟨_, aims, _⟩, _⟩
      · exact ⟨_, aims⟩
      · exact ⟨_, aims⟩
    obtain ⟨decl', attr, aim, known, declared, aliased, _⟩ := aliasLink_declared found
    have apart := orderly.apart type decl' attr aim known (mem_of_attr? declared).1 aliased
    exact map.mem_aliasGroup_iff (orderly.pairs.matched orderly.distinct) apart mem

theorem Registry.Orderly.aligned (orderly : reg.Orderly) : reg.Aligned where
  types := orderly.types
  groups type groups a b mapped there c := by
    obtain ⟨_, map⟩ := aliasMapOf_aliasMap mapped
    exact orderly.mem_aliasGroup_iff map (.tail _ there)

/-- A source that gives every attribute of a type, and nothing else, a value of the declared type. -/
structure Source.Complete (reg : Registry) (type : String) (decl : AnnotType)
    (groups : Entries (List String)) (source : Source) : Prop where
  known : reg.type type = .ok decl
  mapped : reg.aliasMap type = .ok groups
  full : ∀ name attr, decl.attr? name = some attr → ∃ value, source.value? name = some value ∧
    value.conformsTo attr.type = true
  closed : ∀ name, decl.attr? name = none → source.value? name = none

/-- A complete source that gives equal values to aliases. -/
structure Source.Resolved (reg : Registry) (type : String) (decl : AnnotType)
    (groups : Entries (List String)) (source : Source) : Prop
    extends source.Complete reg type decl groups where
  aliases : ∀ a b, b ∈ listed groups a →
    sameOption (source.value? a) (source.value? b) = true

namespace Value

variable {value value' inner : Value} {declared : AttrType}

theorem Holds.trans {middle : Value} (h : value.Holds middle) (h' : middle.Holds inner) :
    value.Holds inner := by
  induction h with
  | here => exact h'
  | item mem _ ih => exact .item mem (ih h')

/-- No store is held, each annotation that is held meets a condition, and so do all in the values that
it gives attributes of its type. -/
inductive Throughout (reg : Registry) (P : Annot → Prop) : Value → Prop
  | intro {value : Value}
    (flat : ∀ given shown values, ¬ value.Holds (.store given shown values))
    (each : ∀ type values, value.Holds (.annot type values) → P ⟨type, values⟩)
    (inside : ∀ type values decl attr inner, value.Holds (.annot type values) →
      reg.type type = .ok decl → attr ∈ decl.attrs → Entries.get? values attr.name = some inner →
      Throughout reg P inner) : Throughout reg P value

namespace Throughout

variable {P Q : Annot → Prop}

theorem flat (h : value.Throughout reg P) {given shown : Option String} {values : Entries Value} :
    ¬ value.Holds (.store given shown values) := by
  obtain ⟨flat, _, _⟩ := h
  exact flat _ _ _

theorem of_holds (h : value.Throughout reg P) (held : value.Holds inner) :
    inner.Throughout reg P := by
  obtain ⟨flat, each, inside⟩ := h
  exact .intro (fun _ _ _ store => flat _ _ _ (held.trans store))
    (fun _ _ annot => each _ _ (held.trans annot))
    fun _ _ _ _ _ annot => inside _ _ _ _ _ (held.trans annot)

theorem item {items : List Value} (h : (Value.array items).Throughout reg P) {item : Value}
    (mem : item ∈ items) : item.Throughout reg P :=
  h.of_holds (.item mem .here)

theorem array {items : List Value} (h : ∀ item ∈ items, item.Throughout reg P) :
    (Value.array items).Throughout reg P := by
  refine .intro (fun _ _ _ held => ?_) (fun _ _ held => ?_) fun _ _ _ _ _ held => ?_
  · cases held with
    | item mem held => exact (h _ mem).flat held
  · cases held with
    | item mem held =>
      obtain ⟨_, each, _⟩ := h _ mem
      exact each _ _ held
  · cases held with
    | item mem held =>
      obtain ⟨_, _, inside⟩ := h _ mem
      exact inside _ _ _ _ _ held

theorem annot {annot : Annot} {decl : AnnotType} (own : P annot)
    (known : reg.type annot.type = .ok decl)
    (inside : ∀ attr ∈ decl.attrs, ∀ inner, annot.value? attr.name = some inner →
      inner.Throughout reg P) : annot.toValue.Throughout reg P := by
  refine .intro (fun _ _ _ held => ?_) (fun _ _ held => ?_) fun _ _ _ _ _ held known' mem given => ?_
  · cases held
  · cases held
    exact own
  · cases held
    cases known.symm.trans known'
    exact inside _ mem _ given

/-- What is neither an array nor an annotation nor a store holds no annotation. -/
theorem plain (single : ∀ items, value ≠ .array items)
    (noAnnot : ∀ type values, value ≠ .annot type values)
    (noStore : ∀ given shown values, value ≠ .store given shown values) :
    value.Throughout reg P := by
  have alone {inner : Value} (held : value.Holds inner) : inner = value := by
    cases held with
    | here => rfl
    | item _ _ => exact absurd rfl (single _)
  exact .intro (fun _ _ _ held => noStore _ _ _ (alone held).symm)
    (fun _ _ held => absurd (alone held).symm (noAnnot _ _))
    fun _ _ _ _ _ held => absurd (alone held).symm (noAnnot _ _)

section

variable {annot : Annot}

theorem own (h : annot.toValue.Throughout reg P) : P annot := by
  obtain ⟨_, each, _⟩ := h
  exact each _ _ .here

theorem given {decl : AnnotType} {attr : Attr} (h : annot.toValue.Throughout reg P)
    (known : reg.type annot.type = .ok decl) (mem : attr ∈ decl.attrs)
    (given : annot.value? attr.name = some inner) : inner.Throughout reg P := by
  obtain ⟨_, _, inside⟩ := h
  exact inside _ _ _ _ _ .here known mem given

end

theorem imp (step : ∀ annot : Annot, P annot → (∀ decl attr inner, reg.type annot.type = .ok decl →
      attr ∈ decl.attrs → annot.value? attr.name = some inner → inner.Throughout reg P) → Q annot)
    (h : value.Throughout reg P) : value.Throughout reg Q := by
  induction h with
  | intro flat each inside ih =>
    exact .intro flat (fun _ _ held => step _ (each _ _ held) fun _ _ _ => inside _ _ _ _ _ held)
      fun _ _ _ _ _ held => ih _ _ _ _ _ held

theorem and (h : value.Throughout reg P) (h' : value.Throughout reg Q) :
    value.Throughout reg fun annot => P annot ∧ Q annot := by
  induction h with
  | intro flat each inside ih =>
    obtain ⟨_, each', inside'⟩ := h'
    exact .intro flat (fun _ _ held => ⟨each _ _ held, each' _ _ held⟩)
      fun _ _ _ _ _ held known mem given =>
        ih _ _ _ _ _ held known mem given (inside' _ _ _ _ _ held known mem given)

end Throughout

/-- What conforms to a declared type that nests nothing equals only itself. -/
theorem eq_of_same (single : ∀ element, declared ≠ .array element)
    (flat : ∀ type, declared ≠ .annot type) (conforms : value.conformsTo declared = true)
    (same : value.same value' = true) : value = value' := by
  cases value with
  | array items =>
    cases declared with
    | array element => exact absurd rfl (single _)
    | _ => cases conforms
  | annot type values =>
    cases declared with
    | annot name => exact absurd rfl (flat _)
    | _ => cases conforms
  | store given shown values =>
    cases declared with
    | annot name => exact absurd rfl (flat _)
    | _ => cases conforms
  | _ =>
    cases value' with
    | _ => first | cases same | simpa [Value.same] using same

/-- What equals a value that holds no store conforms to whatever the value conforms to. -/
theorem conformsTo_of_same (flat : ∀ given shown values, ¬ value.Holds (.store given shown values))
    (same : value.same value' = true) (conforms : value.conformsTo declared = true) :
    value'.conformsTo declared = true := by
  induction declared generalizing value value' with
  | array element ih =>
    cases value with
    | array items =>
      cases value' with
      | array items' =>
        refine itemsConformTo_iff.2 fun item' mem' => ?_
        obtain ⟨item, mem, alike⟩ := partner_of_forall₂ (same_array_iff.1 same).flip mem'
        exact ih (fun _ _ _ held => flat _ _ _ (.item mem held)) alike
          (itemsConformTo_iff.1 conforms item mem)
      | _ => cases same
    | _ => cases conforms
  | annot name =>
    cases value with
    | annot type values =>
      cases value' with
      | annot type' values' => exact (same_annot_iff.1 same).1 ▸ conforms
      | _ => cases same
    | store given shown values => exact absurd .here (flat _ _ _)
    | _ => cases conforms
  | _ => rwa [← eq_of_same (by simp) (by simp) conforms same]

/-- No store stands in a value, and all annotations in it are complete. -/
abbrev Whole (reg : Registry) : Value → Prop :=
  Throughout reg fun annot => ∃ decl groups, Source.Complete reg annot.type decl groups (.annot annot)

/-- No store stands in a value, and all annotations in it are resolved. -/
abbrev Resolved (reg : Registry) : Value → Prop :=
  Throughout reg fun annot => ∃ decl groups, Source.Resolved reg annot.type decl groups (.annot annot)

end Value

/-- All annotations in the values of a complete one meet what all in it meet. -/
theorem Source.Complete.inside {P : Annot → Prop} {type : String} {decl : AnnotType}
    {groups : Entries (List String)} {values : Entries Value}
    (complete : Source.Complete reg type decl groups (.annot ⟨type, values⟩))
    (h : (Value.annot type values).Throughout reg P) {name : String} {value : Value}
    (own : values.get? name = some value) : value.Throughout reg P := by
  cases found : decl.attr? name with
  | none => cases own.symm.trans (complete.closed name found)
  | some attr =>
    obtain ⟨mem, rfl⟩ := mem_of_attr? found
    exact @Value.Throughout.given _ _ _ ⟨type, values⟩ _ _ h complete.known mem own

namespace View

variable {value fitted : Value} {declared : AttrType} {owner name : String}

/-- What is fitted conforms to the declared type. It has a property that plain values have and that
arrays take over from their items, if what nested annotations become has it. -/
theorem fit_made {P : Value → Prop}
    (plain : ∀ value, (∀ items, value ≠ .array items) → (∀ type values, value ≠ .annot type values) →
      (∀ given shown values, value ≠ .store given shown values) → P value)
    (array : ∀ items : List Value, (∀ item ∈ items, P item) → P (.array items))
    {nested : Source → String → Action SynthMemo Annot}
    (keeps : ∀ source type, Keeps (Sound reg) (nested source type))
    (made : ∀ source type annot, Yields (Sound reg) (nested source type) (.ok annot) →
      annot.type = source.readAs type ∧ P annot.toValue)
    (h : Yields (Sound reg) (fit owner nested name declared value) (.ok fitted)) :
    fitted.conformsTo declared = true ∧ P fitted := by
  have fits := fit_fits keeps h
  clear h
  induction declared generalizing value fitted with
  | array element ih =>
    obtain ⟨items, results, rfl, rfl, each⟩ := fits
    have all : ∀ result ∈ results, result.conformsTo element = true ∧ P result := by
      intro result mem
      obtain ⟨item, _, first⟩ := partner_of_forall₂ each.flip mem
      exact ih first
    exact ⟨Value.itemsConformTo_iff.2 fun result mem => (all result mem).1,
      array results fun result mem => (all result mem).2⟩
  | annot type =>
    obtain ⟨source, annot, stands, first, rfl⟩ := fits
    obtain ⟨named, made⟩ := made _ _ _ first
    exact ⟨by simpa [Value.conformsTo] using named.trans stands.readAs, made⟩
  | _ =>
    obtain ⟨rfl, conforms⟩ := fits
    refine ⟨conforms, plain _ ?_ ?_ ?_⟩
    all_goals
      intros
      intro nests
      rw [nests] at conforms
      cases conforms

variable {view : View} {source : Source} {type : String} {values : Entries Value} {attr : Attr}
  {P : Annot → Prop} {nested : Value → Source → String → Action SynthMemo Annot}

/-- The values of a view are what its attributes are read with, and nothing else. -/
theorem valuesWith_reads
    (keeps : ∀ value source type, Keeps (Sound reg) (nested value source type))
    (h : Yields (Sound reg) (view.valuesWith nested) (.ok values)) :
    (∀ name attr, view.type.attr? name = some attr → ∃ value, values.get? name = some value ∧
      Yields (Sound reg) (view.attrWith nested name) (.ok value)) ∧
    ∀ name, view.type.attr? name = none → values.get? name = none := by
  obtain ⟨pairs, rfl, made⟩ := valuesWith_yields keeps h
  have own {name : String} {value : Value} (own : (Entries.ofPairs pairs).get? name = some value) :
      name ∈ view.type.attrs.map (·.name) ∧
        Yields (Sound reg) (view.attrWith nested name) (.ok value) := by
    obtain ⟨attr, mem, same, read⟩ :=
      partner_of_forall₂ made.flip ((Entries.mem_of_get?_putAll own).resolve_right (by simp))
    dsimp only at same read
    subst same
    exact ⟨List.mem_map.2 ⟨attr, mem, rfl⟩, read⟩
  refine ⟨fun name attr found => ?_, fun name absent => ?_⟩
  · obtain ⟨mem, rfl⟩ := mem_of_attr? found
    obtain ⟨pair, inside, same, _⟩ := partner_of_forall₂ made mem
    obtain ⟨value, there⟩ := Option.isSome_iff_exists.1
      (Entries.isSome_get?_putAll (.inl (List.mem_map.2 ⟨pair, inside, same⟩)))
    exact ⟨value, there, (own there).2⟩
  · rw [Option.eq_none_iff_forall_ne_some]
    intro value there
    obtain ⟨attr, found⟩ := attr?_of_name (own there).1
    cases absent.symm.trans found

theorem valuesWith_get? (distinct : (view.type.attrs.map (·.name)).Nodup)
    (keeps : ∀ value source type, Keeps (Sound reg) (nested value source type))
    (h : Yields (Sound reg) (view.valuesWith nested) (.ok values)) :
    (∀ attr ∈ view.type.attrs, ∃ value, values.get? attr.name = some value ∧
      Yields (Sound reg) (view.attrWith nested attr.name) (.ok value)) ∧
    ∀ name ∉ view.type.attrs.map (·.name), values.get? name = none := by
  obtain ⟨full, closed⟩ := valuesWith_reads keeps h
  refine ⟨fun attr mem => full _ attr (attr?_of_mem distinct mem), fun name absent => closed name ?_⟩
  rw [Option.eq_none_iff_forall_ne_some]
  intro attr found
  obtain ⟨mem, rfl⟩ := mem_of_attr? found
  exact absent (List.mem_map.2 ⟨attr, mem, rfl⟩)

/-- Over a registry whose aliases are aligned, a view reads aliases as equal values. -/
theorem valuesWith_aliases (aligned : reg.Aligned) (of : view.Of reg source type)
    (makes : Makes reg nested nested)
    (h : Yields (Sound reg) (view.valuesWith nested) (.ok values)) {a b : String}
    (there : b ∈ listed view.aliases a) :
    sameOption (values.get? a) (values.get? b) = true := by
  obtain ⟨full, _⟩ := valuesWith_reads makes.keeps h
  obtain ⟨decl, map⟩ := aliasMapOf_aliasMap of.aliases
  cases of.type.symm.trans map.known
  obtain ⟨_, attr, partner, found, found', left, right, isDefault, isDefault', equal⟩ :=
    map.partner there
  obtain ⟨_, rfl⟩ := mem_of_attr? found
  obtain ⟨_, rfl⟩ := mem_of_attr? found'
  have defaults : sameOption attr.default? partner.default? = true := by
    rw [isDefault, isDefault']
    exact equal
  have types := aligned.types type view.type _ _ _ attr partner of.type of.aliases there found found'
  obtain ⟨value, own, read⟩ := full _ attr found
  obtain ⟨value', theirs, read'⟩ := full _ partner found'
  rw [own, theirs]
  exact attrWith_alias_same of of makes found found' types defaults
    (aligned.groups type _ _ _ of.aliases there) read read'

section

variable (keeps : ∀ value source type, Keeps (Sound reg) (nested value source type))

include keeps

/-- What an attribute is read with conforms to its type, and all annotations in it meet what those
that nested ones become meet. -/
theorem attrWith_throughout
    (made : ∀ value source type annot, Yields (Sound reg) (nested value source type) (.ok annot) →
      annot.type = source.readAs type ∧ annot.toValue.Throughout reg P)
    (found : view.type.attr? name = some attr)
    (h : Yields (Sound reg) (view.attrWith nested name) (.ok value)) :
    value.conformsTo attr.type = true ∧ value.Throughout reg P := by
  obtain ⟨picked, _, fitted⟩ := attrWith_ok found h
  exact fit_made (fun _ => .plain) (fun _ => .array) (keeps picked) (made picked) fitted

/-- The values of a view of any source make an annotation in which all meet what those that nested
ones become meet, if it meets that itself. -/
theorem valuesWith_throughout
    (made : ∀ value source type annot, Yields (Sound reg) (nested value source type) (.ok annot) →
      annot.type = source.readAs type ∧ annot.toValue.Throughout reg P)
    (of : view.Of reg source type)
    (h : Yields (Sound reg) (view.valuesWith nested) (.ok values)) (own : P ⟨type, values⟩) :
    (Value.annot type values).Throughout reg P := by
  refine @Value.Throughout.annot reg P ⟨type, values⟩ _ own of.type fun attr mem inner given => ?_
  obtain ⟨other, found⟩ := attr?_of_name (List.mem_map.2 ⟨attr, mem, rfl⟩)
  obtain ⟨value, own, read⟩ := (valuesWith_reads keeps h).1 _ other found
  cases own.symm.trans given
  exact (attrWith_throughout keeps made found read).2

/-- The values of a view of any source make a complete annotation. -/
theorem valuesWith_complete
    (named : ∀ value source type annot, Yields (Sound reg) (nested value source type) (.ok annot) →
      annot.type = source.readAs type)
    (of : view.Of reg source type)
    (h : Yields (Sound reg) (view.valuesWith nested) (.ok values)) :
    Source.Complete reg type view.type view.aliases (.annot ⟨type, values⟩) := by
  obtain ⟨full, closed⟩ := valuesWith_reads keeps h
  refine ⟨of.type, of.aliases, fun name attr found => ?_, closed⟩
  obtain ⟨value, own, read⟩ := full name attr found
  obtain ⟨picked, _, fitted⟩ := attrWith_ok found read
  have plain := fit_made (P := fun _ => True) (fun _ _ _ _ => trivial) (fun _ _ => trivial)
    (keeps picked) (fun _ _ _ made => ⟨named _ _ _ _ made, trivial⟩) fitted
  exact ⟨value, own, plain.1⟩

end

end View

namespace Registry

variable {element : Option Element} {bound : Nat} {source : Source} {type : String} {annot : Annot}

/-- All annotations in what a source is made into meet what the values of all views make annotations
meet. -/
theorem materialize_throughout {P : Annot → Prop}
    (own : ∀ {bound : Nat} {source : Source} {type : String} {view : View} {values : Entries Value},
      view.Of reg source type →
      Yields (Sound reg) (view.valuesWith fun _ => reg.materialize element bound) (.ok values) →
      P ⟨type, values⟩)
    (h : Yields (Sound reg) (reg.materialize element bound source type) (.ok annot)) :
    annot.type = source.readAs type ∧ annot.toValue.Throughout reg P := by
  induction bound generalizing source type annot with
  | zero => cases h.throw
  | succ bound ih =>
    obtain ⟨_, view, size, of, named, read⟩ := materialize_ok h
    cases size
    rw [← named] at of
    have keeps := fun _ : Value => reg.asked_keeps.materialize element bound
    exact ⟨named, View.valuesWith_throughout keeps (fun _ _ _ _ => ih) of read (own of read)⟩

theorem materialize_named
    (h : Yields (Sound reg) (reg.materialize element bound source type) (.ok annot)) :
    annot.type = source.readAs type := by
  obtain ⟨_, _, _, _, named, _⟩ := materialize_ok h
  exact named

/-- What a source is made into is whole. -/
theorem materialize_whole
    (h : Yields (Sound reg) (reg.materialize element bound source type) (.ok annot)) :
    annot.type = source.readAs type ∧ annot.toValue.Whole reg :=
  materialize_throughout (fun of read => ⟨_, _, View.valuesWith_complete
    (fun _ => reg.asked_keeps.materialize element _) (fun _ _ _ _ => materialize_named) of read⟩) h

/-- Over a registry whose aliases are aligned, what a source is made into is resolved. -/
theorem materialize_resolved (aligned : reg.Aligned)
    (h : Yields (Sound reg) (reg.materialize element bound source type) (.ok annot)) :
    annot.type = source.readAs type ∧ annot.toValue.Resolved reg := by
  refine materialize_throughout (fun {bound} _ _ _ _ of read => ?_) h
  have keeps := fun _ : Value => reg.asked_keeps.materialize element bound
  exact ⟨_, _, View.valuesWith_complete keeps (fun _ _ _ _ => materialize_named) of read,
    fun _ _ => View.valuesWith_aliases aligned of ⟨keeps, keeps, fun _ _ => materialize_same⟩ read⟩

end Registry

/-- All annotations in what is rendered meet what those that nested ones become meet, where no store
stands in it. -/
theorem Rendering.renderWith_throughout {P : Annot → Prop} {rendering : Rendering}
    {nested : Annot → Action SynthMemo Value}
    (keeps : ∀ annot, Keeps (Sound reg) (nested annot))
    (made : ∀ annot result, Yields (Sound reg) (nested annot) (.ok result) →
      result.Throughout reg P)
    {value rendered : Value}
    (flat : ∀ given shown values, ¬ rendered.Holds (.store given shown values))
    (h : Yields (Sound reg) (rendering.renderWith nested value) (.ok rendered)) :
    rendered.Throughout reg P := by
  induction value using Value.inside_induction generalizing rendered with
  | annot type values _ => exact made _ _ h
  | array items ih =>
    unfold renderWith at h
    have each := reg.asked_keeps.renderWith keeps rendering
    obtain ⟨results, all, h⟩ := h.bind_ok (reg.asked_keeps.renderItems fun item _ => each item)
    cases h.pure
    refine .array fun result mem => ?_
    obtain ⟨item, inside, first⟩ := partner_of_forall₂ (renderItems_yields keeps all).flip mem
    exact ih item inside (fun _ _ _ held => flat _ _ _ (.item mem held)) first
  | store given shown values _ =>
    cases h.pure
    exact absurd .here (flat _ _ _)
  | classRef name =>
    cases h.pure
    split <;> exact .plain (by simp) (by simp) (by simp)
  | _ =>
    cases h.pure
    exact .plain (by simp) (by simp) (by simp)

/-- Over a registry whose aliases are aligned, what is rendered as it is is resolved where no store
stands in it. -/
theorem Registry.render_raw_resolved (aligned : reg.Aligned) {element : Element}
    {value rendered : Value}
    (flat : ∀ given shown values, ¬ rendered.Holds (.store given shown values))
    (h : Yields (Sound reg) (reg.render element .raw value) (.ok rendered)) :
    rendered.Resolved reg := by
  refine Rendering.renderWith_throughout (reg.asked_keeps.renderNested _ element _)
    (fun annot result h => ?_) flat h
  generalize reg.nestingBound value = bound at h
  cases bound with
  | zero => cases h.throw
  | succ bound =>
    obtain ⟨made, first, h⟩ := h.bind_ok (reg.asked_keeps.materialize _ _ _ _)
    cases h.pure
    exact (materialize_resolved aligned first).2

end Annotations
