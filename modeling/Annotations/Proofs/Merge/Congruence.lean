import Annotations.Proofs.Merge.Fitting
import Annotations.Proofs.Merge.Slots
import Annotations.Proofs.Value.Same

/-!
Equal values are rendered equally, whatever is kept and however deep they may nest: wherever both
renderings succeed, their results are equal. So are the stores of equal annotations and what views
of equal sources read.
-/
namespace Annotations

open Annotations.Action SynthMemo Value

variable {reg : Registry}

/-- Two sources of one kind with equal values. -/
def Source.Same : Source → Source → Prop
  | .annot a, .annot b => a.type = b.type ∧
      ∀ name, sameOption (a.values.get? name) (b.values.get? name) = true
  | .store a, .store b => ∀ name, sameOption (a.values.get? name) (b.values.get? name) = true
  | _, _ => False

/-- The annotation type that a source is read as where a type is asked for. -/
def Source.readAs : Source → String → String
  | .annot given, _ => given.type
  | .store _, type => type

theorem Source.Same.readAs {source source' : Source} (h : source.Same source') (type : String) :
    source.readAs type = source'.readAs type := by
  match source, source', h with
  | .annot a, .annot b, ⟨types, _⟩ => exact types
  | .store a, .store b, _ => rfl

theorem Value.Stands.readAs {value : Value} {type : String} {source : Source}
    (h : value.Stands type source) : source.readAs type = type := by
  cases h <;> rfl

theorem Value.Stands.same_sources {value value' : Value} {type type' : String}
    {source source' : Source} (h : value.Stands type source) (h' : value'.Stands type' source')
    (same : value.same value' = true) : source.Same source' := by
  cases h with
  | annot =>
    cases h' with
    | annot => exact same_annot_iff.1 same
    | store _ => cases same
  | store _ =>
    cases h' with
    | annot => cases same
    | store _ => exact same_store_iff.1 same

/-- A view of a source as an annotation of a type. -/
structure View.Of (reg : Registry) (source : Source) (name : String) (view : View) : Prop where
  source : view.source = source
  named : view.name = name
  type : reg.type name = .ok view.type
  aliases : reg.aliasMap name = .ok view.aliases

theorem Registry.viewAnnot_of {annot : Annot} {element : Option Element} {view : View}
    (h : Yields (Sound reg) (reg.viewAnnot annot element) (.ok view)) :
    view.Of reg (.annot annot) annot.type := by
  obtain ⟨decl, known, h⟩ := h.bind_ok (reg.asked_keeps.lift _)
  have known := known.lift.symm
  obtain ⟨answer, asked, h⟩ := h.bind_ok (reg.asked_keeps.synthesizable _)
  cases answer with
  | true =>
    obtain ⟨aliases, mapped, h⟩ := h.bind_ok (reg.asked_keeps.aliasMap _)
    have mapped := mapped.computes (reg.recallAliasMap_computes annot.type)
    cases h.pure
    exact ⟨rfl, rfl, known, mapped.symm⟩
  | false =>
    obtain ⟨memo, sound, outcome⟩ := asked
    have plain := (isSynthesizable_means annot.type memo sound).2
    rw [outcome] at plain
    obtain ⟨decl', known', links⟩ := plain annot.type .refl
    cases known.symm.trans known'
    cases h.pure
    exact ⟨rfl, rfl, known, aliasMap_of_plain known links⟩

theorem Registry.viewStore_of {store : Store} {name : String} {element : Option Element}
    {view : View} (h : Yields (Sound reg) (reg.viewStore store name element) (.ok view)) :
    view.Of reg (.store store) name := by
  obtain ⟨decl, known, h⟩ := h.bind_ok (reg.asked_keeps.lift _)
  obtain ⟨aliases, mapped, h⟩ := h.bind_ok (reg.asked_keeps.aliasMap _)
  have mapped := mapped.computes (reg.recallAliasMap_computes name)
  cases h.pure
  exact ⟨rfl, rfl, known.lift.symm, mapped.symm⟩

theorem Registry.viewSource_of {element : Option Element} {source : Source} {type : String}
    {view : View} (h : Yields (Sound reg) (reg.viewSource element source type) (.ok view)) :
    view.Of reg source (source.readAs type) := by
  cases source with
  | annot annot => exact viewAnnot_of h
  | store store => exact viewStore_of h

namespace View.Of

variable {source source' : Source} {name : String} {view view' : View}

theorem same_type (h : view.Of reg source name) (h' : view'.Of reg source' name) :
    view.type = view'.type :=
  Except.ok.inj (h.type.symm.trans h'.type)

theorem same_aliases (h : view.Of reg source name) (h' : view'.Of reg source' name) :
    view.aliases = view'.aliases :=
  Except.ok.inj (h.aliases.symm.trans h'.aliases)

/-- Views of equal sources hold equal values. -/
theorem raw_same (h : view.Of reg source name) (h' : view'.Of reg source' name)
    (same : source.Same source') (attr : String) :
    sameOption (view.raw attr) (view'.raw attr) = true := by
  unfold View.raw
  rw [h.source, h'.source, h.same_type h']
  match source, source', same with
  | .annot a, .annot b, ⟨_, values⟩ =>
    have here := sameOption_iff.1 (values attr)
    simp only [Annot.value?]
    cases left : a.values.get? attr with
    | none =>
      rw [left] at here
      cases right : b.values.get? attr with
      | none => exact sameOption_refl _
      | some other =>
        rw [right] at here
        cases here
    | some value =>
      rw [left] at here
      cases right : b.values.get? attr with
      | none =>
        rw [right] at here
        cases here
      | some other =>
        rw [right] at here
        cases here with
        | some same => exact same
  | .store a, .store b, values => exact values attr

end View.Of

theorem View.isSet_same {value value' default? : Option Value}
    (same : sameOption value value' = true) : isSet value default? = isSet value' default? := by
  unfold isSet
  rw [sameOption_congr same (sameOption_refl default?), sameOption_isSome same]

/-- Where going through aliases ends, going through them with equal values ends with an equal one. -/
theorem View.settle_same {view view' : View}
    (raw : ∀ attr, sameOption (view.raw attr) (view'.raw attr) = true)
    {default? value value' result : Option Value} {partners : List String}
    {declaredBy declaredBy' : String} (same : sameOption value value' = true)
    (h : view.settle default? partners value declaredBy = .ok result) :
    ∃ result', view'.settle default? partners value' declaredBy' = .ok result' ∧
      sameOption result result' = true := by
  induction partners generalizing value value' declaredBy declaredBy' with
  | nil =>
    cases h
    exact ⟨value', rfl, same⟩
  | cons partner rest ih =>
    unfold settle at h ⊢
    have other := raw partner
    have set : isSet value default? = isSet value' default? := isSet_same same
    have otherSet : isSet (view.raw partner) default? = isSet (view'.raw partner) default? :=
      isSet_same other
    have there := sameOption_isSome other
    simp only [set, otherSet, there, sameOption_congr same other] at h
    split at h
    · cases h
    · rename_i agree
      rw [if_neg agree]
      split at h
      · rename_i take
        rw [if_pos take]
        exact ih other h
      · rename_i keep
        rw [if_neg keep]
        exact ih same h

theorem View.pick_same {source source' : Source} {name : String} {view view' : View}
    (h : view.Of reg source name) (h' : view'.Of reg source' name) (same : source.Same source')
    {attr : Attr} {value value' : Value} (picked : view.pick attr = .ok value)
    (picked' : view'.pick attr = .ok value') : value.same value' = true := by
  obtain ⟨settled, went, picked⟩ := Outcome.bind_ok picked
  obtain ⟨settled', went', picked'⟩ := Outcome.bind_ok picked'
  rw [h.same_aliases h'] at went
  obtain ⟨_, ended, alike⟩ :=
    settle_same (h.raw_same h' same) (h.raw_same h' same attr.name) went
  cases ended.symm.trans went'
  cases sameOption_iff.1 alike with
  | none =>
    cases default? : attr.default? with
    | none =>
      rw [default?] at picked
      cases picked
    | some fallback =>
      rw [default?] at picked picked'
      cases picked
      cases picked'
      exact same_refl _
  | some alike =>
    cases picked
    cases picked'
    exact alike

theorem View.wrap_same (type : AttrType) {value value' : Value} (same : value.same value' = true) :
    (wrap type value).same (wrap type value') = true := by
  have single : (Value.array [value]).same (.array [value']) = true :=
    same_array_iff.2 (.cons same .nil)
  cases type with
  | array element =>
    cases value with
    | array items =>
      cases value' with
      | array items' => exact same
      | _ => cases same
    | _ =>
      cases value' with
      | array items' => cases same
      | _ => exact single
  | _ => exact same

/-- Makers of annotations that make equal ones of equal sources. -/
def MakeSame (reg : Registry) (nested nested' : Source → String → Action SynthMemo Annot) : Prop :=
  ∀ source source' type annot annot', source.Same source' →
    Yields (Sound reg) (nested source type) (.ok annot) →
    Yields (Sound reg) (nested' source' type) (.ok annot') →
    annot.toValue.same annot'.toValue = true

theorem View.plain_same (declared : AttrType) {value value' : Value}
    (same : value.same value' = true) :
    (plain declared value).same (plain declared value') = true := by
  cases declared with
  | classRef =>
    cases value with
    | text content =>
      cases value' with
      | text content' => simpa [plain, Value.same] using same
      | _ => cases same
    | _ =>
      cases value' with
      | text content' => cases same
      | _ => exact same
  | _ => exact same

/-- Equal values come to fit as equal ones. -/
theorem View.fit_same {nested nested' : Source → String → Action SynthMemo Annot}
    (keeps : ∀ source type, Keeps (Sound reg) (nested source type))
    (keeps' : ∀ source type, Keeps (Sound reg) (nested' source type))
    (make : MakeSame reg nested nested') {owner owner' name name' : String} {declared : AttrType}
    {value value' fitted fitted' : Value} (same : value.same value' = true)
    (h : Yields (Sound reg) (fit owner nested name declared value) (.ok fitted))
    (h' : Yields (Sound reg) (fit owner' nested' name' declared value') (.ok fitted')) :
    fitted.same fitted' = true := by
  have fits := fit_fits keeps h
  have fits' := fit_fits keeps' h'
  clear h h'
  induction declared generalizing value value' fitted fitted' with
  | array element ih =>
    obtain ⟨items, results, rfl, rfl, made⟩ := fits
    obtain ⟨items', results', rfl, rfl, made'⟩ := fits'
    refine same_array_iff.2 (Yields.lockstep ?_ (same_array_iff.1 same) made made')
    exact fun _ _ _ _ _ here first first' => ih here first first'
  | annot type =>
    obtain ⟨source, annot, stands, made, rfl⟩ := fits
    obtain ⟨source', annot', stands', made', rfl⟩ := fits'
    exact make _ _ _ _ _ (stands.same_sources stands' same) made made'
  | _ =>
    rw [fits.1, fits'.1]
    exact plain_same _ same

namespace View

variable {source source' : Source} {name : String} {view view' : View}
  {nested nested' : Value → Source → String → Action SynthMemo Annot}

/-- What makes annotations out of nested ones keeps memos right and makes equal ones of equal
sources. -/
structure Makes (reg : Registry)
    (nested nested' : Value → Source → String → Action SynthMemo Annot) :
    Prop where
  keeps : ∀ value source type, Keeps (Sound reg) (nested value source type)
  keeps' : ∀ value source type, Keeps (Sound reg) (nested' value source type)
  same : ∀ value value', MakeSame reg (nested value) (nested' value')

theorem attrWith_undeclared {read : String} (absent : view.type.attr? read = none) :
    view.attrWith nested read = throw (.attributeNotFound read view.name) := by
  unfold attrWith
  simp only [absent]

/-- Only what the type declares is read. -/
theorem attrWith_declared {read : String} {value : Value}
    (h : Yields (Sound reg) (view.attrWith nested read) (.ok value)) :
    ∃ attr, view.type.attr? read = some attr := by
  cases declared : view.type.attr? read with
  | none =>
    rw [attrWith_undeclared declared] at h
    cases h.throw
  | some attr => exact ⟨attr, rfl⟩

/-- An attribute is read by picking a value and fitting it to the declared type. -/
theorem attrWith_ok {attr : Attr} {read : String} (found : view.type.attr? read = some attr)
    {value : Value} (h : Yields (Sound reg) (view.attrWith nested read) (.ok value)) :
    ∃ picked, view.pick attr = .ok picked ∧ Yields (Sound reg)
      (fit view.name (nested picked) attr.name attr.type (wrap attr.type picked)) (.ok value) := by
  unfold attrWith at h
  simp only [found] at h
  obtain ⟨picked, chosen, h⟩ := h.bind_ok (reg.asked_keeps.lift _)
  exact ⟨picked, chosen.lift.symm, h⟩

theorem attrWith_same (h : view.Of reg source name) (h' : view'.Of reg source' name)
    (same : source.Same source') (makes : Makes reg nested nested') {attr : String}
    {value value' : Value} (read : Yields (Sound reg) (view.attrWith nested attr) (.ok value))
    (read' : Yields (Sound reg) (view'.attrWith nested' attr) (.ok value')) :
    value.same value' = true := by
  obtain ⟨attr, declared⟩ := attrWith_declared read
  obtain ⟨picked, pick, read⟩ := attrWith_ok declared read
  obtain ⟨picked', pick', read'⟩ := attrWith_ok (h.same_type h' ▸ declared) read'
  have alike := wrap_same attr.type (pick_same h h' same pick pick')
  exact fit_same (makes.keeps picked) (makes.keeps' picked') (makes.same picked picked') alike
    read read'

theorem ofPairs_same {pairs pairs' : List (String × Value)}
    (h : List.Forall₂ (fun pair pair' => pair.1 = pair'.1 ∧ pair.2.same pair'.2 = true)
      pairs pairs')
    (name : String) :
    sameOption ((Entries.ofPairs pairs).get? name) ((Entries.ofPairs pairs').get? name) = true := by
  suffices from_any : ∀ entries entries' : Entries Value,
      (∀ name, sameOption (entries.get? name) (entries'.get? name) = true) →
      sameOption ((Entries.putAll entries pairs).get? name)
        ((Entries.putAll entries' pairs').get? name) = true from
    from_any [] [] fun _ => rfl
  induction h with
  | nil => exact fun entries entries' all => all name
  | cons here _ later =>
    intro entries entries' all
    refine later _ _ fun other => ?_
    rw [Entries.get?_put, Entries.get?_put, here.1]
    split
    · exact here.2
    · exact all other

/-- The values of a view are those that its attributes are read with. -/
theorem valuesWith_yields
    (keeps : ∀ value source type, Keeps (Sound reg) (nested value source type))
    {values : Entries Value} (h : Yields (Sound reg) (view.valuesWith nested) (.ok values)) :
    ∃ pairs, values = Entries.ofPairs pairs ∧
      List.Forall₂ (fun attr pair => pair.1 = attr.name ∧
        Yields (Sound reg) (view.attrWith nested attr.name) (.ok pair.2)) view.type.attrs pairs := by
  have reads (attr : Attr) := reg.asked_keeps.attrWith keeps view attr.name
  have each (attr : Attr) :=
    (Keeps.closed _).bind (reads attr) fun value => (Keeps.closed _).pure (attr.name, value)
  obtain ⟨pairs, made, h⟩ := h.bind_ok ((Keeps.closed _).mapM each _)
  cases h.pure
  refine ⟨pairs, rfl, (made.mapM_ok each).imp fun attr pair first => ?_⟩
  obtain ⟨value, read, first⟩ := first.bind_ok (reads attr)
  cases first.pure
  exact ⟨rfl, read⟩

theorem valuesWith_same (h : view.Of reg source name) (h' : view'.Of reg source' name)
    (same : source.Same source') (makes : Makes reg nested nested') {values values' : Entries Value}
    (read : Yields (Sound reg) (view.valuesWith nested) (.ok values))
    (read' : Yields (Sound reg) (view'.valuesWith nested') (.ok values')) (attr : String) :
    sameOption (values.get? attr) (values'.get? attr) = true := by
  obtain ⟨pairs, rfl, made⟩ := valuesWith_yields makes.keeps read
  obtain ⟨pairs', rfl, made'⟩ := valuesWith_yields makes.keeps' read'
  rw [h.same_type h'] at made
  refine ofPairs_same (Yields.lockstep (R := Eq) ?_ (List.forall₂_refl _) made made') attr
  rintro attr _ _ pair pair' rfl ⟨name, first⟩ ⟨name', first'⟩
  exact ⟨name.trans name'.symm, attrWith_same h h' same makes first first'⟩

end View

/-- What a source is made into is an annotation of the type that it is read as, with the values that
a view of it reads. -/
theorem Registry.materialize_ok {element : Option Element} {bound : Nat} {source : Source}
    {type : String} {annot : Annot}
    (h : Yields (Sound reg) (reg.materialize element bound source type) (.ok annot)) :
    ∃ inner, ∃ view : View, bound = inner + 1 ∧ view.Of reg source (source.readAs type) ∧
      annot.type = source.readAs type ∧
      Yields (Sound reg) (view.valuesWith fun _ => reg.materialize element inner)
        (.ok annot.values) := by
  cases bound with
  | zero => cases h.throw
  | succ inner =>
    have nested := fun _ : Value => reg.asked_keeps.materialize element inner
    rw [materialize_succ] at h
    obtain ⟨view, seen, h⟩ := h.bind_ok (reg.asked_keeps.viewSource element source type)
    obtain ⟨values, read, h⟩ := h.bind_ok (reg.asked_keeps.valuesWith nested view)
    cases h.pure
    have of := viewSource_of seen
    exact ⟨inner, view, rfl, of, of.named, read⟩

/-- Equal sources are made into equal annotations, however deep either may nest. -/
theorem Registry.materialize_same {element element' : Option Element} {bound bound' : Nat} :
    MakeSame reg (reg.materialize element bound) (reg.materialize element' bound') := by
  intro source source' type annot annot' same h h'
  induction bound generalizing bound' source source' type annot annot' with
  | zero => cases h.throw
  | succ bound ih =>
    obtain ⟨_, view, size, of, named, read⟩ := materialize_ok h
    cases size
    obtain ⟨bound', view', rfl, of', named', read'⟩ := materialize_ok h'
    have makes : View.Makes reg (fun _ => reg.materialize element bound)
        fun _ => reg.materialize element' bound' :=
      ⟨fun _ => reg.asked_keeps.materialize element bound,
        fun _ => reg.asked_keeps.materialize element' bound',
        fun _ _ source source' type annot annot' same h h' => ih _ _ _ _ _ same h h'⟩
    rw [← same.readAs] at named' of'
    exact same_annot_iff.2
      ⟨named.trans named'.symm, View.valuesWith_same of of' same makes read read'⟩

/-- Slots that hold equal values in equal ways. -/
def Slot.Same : Slot → Slot → Prop
  | .given a, .given b => a.same b = true
  | .default a, .default b => a.same b = true
  | _, _ => False

/-- Maps of slots with equal slots under each name. -/
def SlotsSame (slots slots' : Entries Slot) : Prop :=
  ∀ name, Option.Rel Slot.Same (slots.get? name) (slots'.get? name)

/-- Renderings that render equal values equally. -/
def RenderSame (reg : Registry) (render render' : Value → Action SynthMemo Value) : Prop :=
  ∀ value value' rendered rendered', value.same value' = true →
    Yields (Sound reg) (render value) (.ok rendered) →
    Yields (Sound reg) (render' value') (.ok rendered') → rendered.same rendered' = true

/-- Values under the names of equal annotations fill equal slots. -/
theorem Slot.Of.same {render render' : Value → Action SynthMemo Value}
    (same : RenderSame reg render render') {annot annot' : Annot} {attr : Attr} {slot slot' : Slot}
    (values : ∀ name, sameOption (annot.value? name) (annot'.value? name) = true)
    (own : slot.Of (Sound reg) render annot attr)
    (own' : slot'.Of (Sound reg) render' annot' attr) : slot.Same slot' := by
  obtain ⟨value, given, kind⟩ := own
  obtain ⟨value', given', kind'⟩ := own'
  have alike : value.same value' = true := by
    have here := sameOption_iff.1 (values attr.name)
    generalize annot.value? attr.name = left at here given
    generalize annot'.value? attr.name = right at here given'
    cases here with
    | none =>
      cases given.symm.trans given'
      exact same_refl value
    | some here =>
      cases given
      cases given'
      exact here
  have default' := sameOption_congr (sameOption_refl attr.default?) (show
    sameOption (some value) (some value') = true from alike)
  rcases kind with ⟨isDefault, rfl⟩ | ⟨isGiven, rendered, rfl, made⟩
  · rcases kind' with ⟨_, rfl⟩ | ⟨isGiven, _⟩
    · exact alike
    · rw [isDefault, isGiven] at default'
      cases default'
  · rcases kind' with ⟨isDefault, _⟩ | ⟨_, rendered', rfl, made'⟩
    · rw [isDefault, isGiven] at default'
      cases default'
    · exact same _ _ _ _ alike made made'

theorem SlotsSame.declared {pending pending' : Pending} (distinct : pending.slots.names.Nodup)
    (distinct' : pending'.slots.names.Nodup) (h : SlotsSame pending.slots pending'.slots)
    (name : String) :
    sameOption (pending.declared.get? name) (pending'.declared.get? name) = true := by
  rw [Pending.declared_get? distinct, Pending.declared_get? distinct']
  have here := h name
  generalize pending.slots.get? name = left at here
  generalize pending'.slots.get? name = right at here
  cases here with
  | none => rfl
  | @some slot slot' here =>
    match slot, slot', here with
    | .given _, .given _, here => exact here
    | .default _, .default _, _ => rfl

/-- Equal slots are completed equally. -/
theorem SlotsSame.completed {declared declared' : Entries Value} {slots slots' : Entries Slot}
    (values : ∀ name, sameOption (declared.get? name) (declared'.get? name) = true)
    (h : SlotsSame slots slots') (partners : List String) (name : String) :
    Option.Rel Slot.Same (Pending.completed declared partners slots name)
      (Pending.completed declared' partners slots' name) := by
  have first : sameOption (partners.findSome? declared.get?) (partners.findSome? declared'.get?) =
      true := by
    induction partners with
    | nil => rfl
    | cons partner rest ih =>
      rw [List.findSome?_cons, List.findSome?_cons]
      have here := sameOption_iff.1 (values partner)
      generalize declared.get? partner = left at here
      generalize declared'.get? partner = right at here
      cases here with
      | none => exact ih
      | some here => exact here
  unfold Pending.completed
  have here := sameOption_iff.1 (values name)
  generalize declared.get? name = left at here
  generalize declared'.get? name = right at here
  cases here with
  | some _ => exact h name
  | none =>
    have first := sameOption_iff.1 first
    generalize partners.findSome? declared.get? = left at first
    generalize partners.findSome? declared'.get? = right at first
    cases first with
    | none => exact h name
    | some same => exact .some same

namespace Registry

variable {render render' : Value → Action SynthMemo Value}
  (keeps : ∀ value, Keeps (Sound reg) (render value))
  (keeps' : ∀ value, Keeps (Sound reg) (render' value)) (same : RenderSame reg render render')

include keeps keeps' same

theorem slotsOf_same {annot annot' : Annot}
    (values : ∀ name, sameOption (annot.value? name) (annot'.value? name) = true)
    {attrs : List Attr}
    {slots slots' result result' : Entries Slot} (start : SlotsSame slots slots')
    (h : Yields (Sound reg) (slotsOf render annot attrs slots) (.ok result))
    (h' : Yields (Sound reg) (slotsOf render' annot' attrs slots') (.ok result')) :
    SlotsSame result result' := by
  induction attrs generalizing slots slots' with
  | nil =>
    cases h.pure
    cases h'.pure
    exact start
  | cons attr rest ih =>
    obtain ⟨slot, own, h⟩ := slotsOf_cons keeps h
    obtain ⟨slot', own', h'⟩ := slotsOf_cons keeps' h'
    refine ih (fun name => ?_) h h'
    rw [Entries.get?_put, Entries.get?_put]
    split
    · exact .some (own.same same values own')
    · exact start name

/-- Equal pending attributes are finished equally. -/
theorem finishWith_same {element element' : Element} {pending pending' : Pending}
    {store store' : Store} (types : pending.type = pending'.type)
    (distinct : pending.slots.names.Nodup) (distinct' : pending'.slots.names.Nodup)
    (slots : SlotsSame pending.slots pending'.slots)
    (h : Yields (Sound reg) (reg.finishWith render element pending) (.ok store))
    (h' : Yields (Sound reg) (reg.finishWith render' element' pending') (.ok store'))
    (name : String) : sameOption (store.get? name) (store'.get? name) = true := by
  obtain ⟨groups, final, mapped, shared, absent, stored⟩ := finishWith_store keeps distinct h
  obtain ⟨groups', final', mapped', shared', absent', stored'⟩ :=
    finishWith_store keeps' distinct' h'
  rw [types] at mapped
  cases mapped.symm.trans mapped'
  have here := slots.completed (slots.declared distinct distinct') (listed groups name) name
  rw [← shared.final, ← shared'.final] at here
  cases left : final.get? name with
  | none =>
    cases right : final'.get? name with
    | none =>
      rw [absent name left, absent' name right]
      rfl
    | some slot' =>
      rw [left, right] at here
      cases here
  | some slot =>
    cases right : final'.get? name with
    | none =>
      rw [left, right] at here
      cases here
    | some slot' =>
      rw [left, right] at here
      obtain ⟨value, found, holds⟩ := stored name slot left
      obtain ⟨value', found', holds'⟩ := stored' name slot' right
      rw [found, found']
      cases here with
      | some here =>
        match slot, slot', here with
        | .given _, .given _, here =>
          cases holds
          cases holds'
          exact here
        | .default _, .default _, here => exact same _ _ _ _ here holds holds'

/-- Pending attributes retrieved from equal annotations are equal. -/
theorem retrieveWith_same {annot annot' : Annot} {pending pending' : Pending}
    (alike : annot.toValue.same annot'.toValue = true)
    (h : Yields (Sound reg) (reg.retrieveWith render annot) (.ok pending))
    (h' : Yields (Sound reg) (reg.retrieveWith render' annot') (.ok pending')) :
    pending.type = pending'.type ∧ SlotsSame pending.slots pending'.slots ∧
      pending.slots.names.Nodup ∧ pending'.slots.names.Nodup := by
  obtain ⟨types, values⟩ := same_annot_iff.1 alike
  obtain ⟨decl, known, h⟩ := h.bind_ok (reg.asked_keeps.lift _)
  obtain ⟨decl', known', h'⟩ := h'.bind_ok (reg.asked_keeps.lift _)
  obtain ⟨slots, made, h⟩ := h.bind_ok (reg.asked_keeps.slotsOf keeps annot decl.attrs [])
  obtain ⟨slots', made', h'⟩ := h'.bind_ok (reg.asked_keeps.slotsOf keeps' annot' decl'.attrs [])
  cases h.pure
  cases h'.pure
  have known := known.lift.symm
  rw [types] at known
  cases known.symm.trans known'.lift.symm
  exact ⟨types, slotsOf_same keeps keeps' same values (fun _ => .none) made made',
    (slotsOf_slots keeps made).2.2 (by simp), (slotsOf_slots keeps' made').2.2 (by simp)⟩

end Registry

namespace Rendering

variable {rendering : Rendering}

/-- Makers of values for nested annotations that make equal ones of equal annotations. -/
def NestSame (reg : Registry) (nested nested' : Annot → Action SynthMemo Value) : Prop :=
  ∀ annot annot' value value', annot.toValue.same annot'.toValue = true →
    Yields (Sound reg) (nested annot) (.ok value) →
    Yields (Sound reg) (nested' annot') (.ok value') → value.same value' = true

theorem renderItems_yields {nested : Annot → Action SynthMemo Value}
    (keeps : ∀ annot, Keeps (Sound reg) (nested annot)) {items results : List Value}
    (h : Yields (Sound reg) (rendering.renderItems nested items) (.ok results)) :
    List.Forall₂ (fun item result => Yields (Sound reg) (rendering.renderWith nested item)
      (.ok result)) items results := by
  induction items generalizing results with
  | nil =>
    cases h.pure
    exact .nil
  | cons item rest ih =>
    unfold renderItems at h
    have each := reg.asked_keeps.renderWith keeps rendering
    obtain ⟨head, first, h⟩ := h.bind_ok (each item)
    obtain ⟨tail, later, h⟩ := h.bind_ok (reg.asked_keeps.renderItems fun item _ => each item)
    cases h.pure
    exact .cons first (ih later)

theorem renderWith_same {nested nested' : Annot → Action SynthMemo Value}
    (keeps : ∀ annot, Keeps (Sound reg) (nested annot))
    (keeps' : ∀ annot, Keeps (Sound reg) (nested' annot)) (same : NestSame reg nested nested') :
    RenderSame reg (rendering.renderWith nested) (rendering.renderWith nested') := by
  intro value value' rendered rendered' alike h h'
  induction value using inside_induction generalizing value' rendered rendered' with
  | annot type values _ =>
    cases value' with
    | annot type' values' => exact same ⟨type, values⟩ ⟨type', values'⟩ _ _ alike h h'
    | _ => cases alike
  | array items ih =>
    cases value' with
    | array items' =>
      have each := reg.asked_keeps.renderWith keeps rendering
      have each' := reg.asked_keeps.renderWith keeps' rendering
      unfold renderWith at h h'
      obtain ⟨results, made, h⟩ := h.bind_ok (reg.asked_keeps.renderItems fun item _ => each item)
      obtain ⟨results', made', h'⟩ := h'.bind_ok
        (reg.asked_keeps.renderItems fun item _ => each' item)
      cases h.pure
      cases h'.pure
      refine same_array_iff.2 (Yields.lockstep ?_ (same_array_iff.1 alike)
        (renderItems_yields keeps made) (renderItems_yields keeps' made'))
      exact fun item mem _ _ _ here first first' => ih item mem _ _ _ here first first'
    | _ => cases alike
  | classRef name =>
    cases value' with
    | classRef name' =>
      have names : name = name' := by simpa [Value.same] using alike
      subst names
      cases h.pure
      cases h'.pure
      exact same_refl _
    | _ => cases alike
  | _ =>
    cases value' with
    | _ =>
      first
      | cases alike
      | cases h.pure
        cases h'.pure
        exact alike

/-- Equal nested annotations are rendered equally, however deep either may nest. -/
theorem renderNested_same {element element' : Element} {bound bound' : Nat} :
    NestSame reg (rendering.renderNested reg element bound)
      (rendering.renderNested reg element' bound') := by
  intro annot annot' value value' alike h h'
  induction bound generalizing bound' annot annot' value value' with
  | zero => cases h.throw
  | succ bound ih =>
    cases bound' with
    | zero => cases h'.throw
    | succ bound' =>
      unfold renderNested at h h'
      split at h
      · rename_i asStores
        rw [if_pos asStores] at h'
        have nested := reg.asked_keeps.renderNested rendering element bound
        have nested' := reg.asked_keeps.renderNested rendering element' bound'
        have keeps := reg.asked_keeps.renderWith nested rendering
        have keeps' := reg.asked_keeps.renderWith nested' rendering
        have same := @renderWith_same reg rendering _ _ nested nested'
          fun annot annot' value value' alike h h' => ih _ _ _ _ alike h h'
        dsimp only at h h'
        obtain ⟨pending, retrieved, h⟩ := h.bind_ok (reg.asked_keeps.retrieveWith keeps annot)
        obtain ⟨pending', retrieved', h'⟩ := h'.bind_ok (reg.asked_keeps.retrieveWith keeps' annot')
        obtain ⟨store, finished, h⟩ := h.bind_ok (reg.asked_keeps.finishWith keeps element pending)
        obtain ⟨store', finished', h'⟩ := h'.bind_ok
          (reg.asked_keeps.finishWith keeps' element' pending')
        cases h.pure
        cases h'.pure
        obtain ⟨types, slots, distinct, distinct'⟩ :=
          Registry.retrieveWith_same keeps keeps' same alike retrieved retrieved'
        exact same_store_iff.2
          (Registry.finishWith_same keeps keeps' same types distinct distinct' slots finished
            finished')
      · rename_i asAnnots
        rw [if_neg asAnnots] at h'
        obtain ⟨made, materialized, h⟩ := h.bind_ok (reg.asked_keeps.materialize _ _ _ _)
        obtain ⟨made', materialized', h'⟩ := h'.bind_ok (reg.asked_keeps.materialize _ _ _ _)
        cases h.pure
        cases h'.pure
        obtain ⟨types, values⟩ := same_annot_iff.1 alike
        rw [types] at materialized
        exact Registry.materialize_same (.annot annot) (.annot annot') _ _ _ ⟨types, values⟩
          materialized materialized'

end Rendering

/-- Equal values are rendered equally, wherever and whenever both are. -/
theorem Registry.render_same {element element' : Element} {rendering : Rendering} :
    RenderSame reg (reg.render element rendering) (reg.render element' rendering) := by
  intro value value' rendered rendered' alike h h'
  exact Rendering.renderWith_same (reg.asked_keeps.renderNested rendering element _)
    (reg.asked_keeps.renderNested rendering element' _) Rendering.renderNested_same
    _ _ _ _ alike h h'

end Annotations
