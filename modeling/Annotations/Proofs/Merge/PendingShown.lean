import Annotations.Proofs.Merge.Renderings

/-!
Merging in any rendering in step with merging values as they are. What is pending on one side shows
what is pending on the other: both began with one annotation, write the same attributes of the same
annotations and complete the same alias groups, so they fail together and their stores show each other.
-/
namespace Annotations

open Annotations.Action SynthMemo Registry
open Value (same_refl same_symm same_trans)

variable {reg : Registry} {rendering : Rendering} {element : Element} {type name : String}
  {value : Value}

namespace Registry

/-- An attribute of a type that lists an alias or is listed by one. -/
def Aliased (reg : Registry) (type name : String) : Prop :=
  ∃ groups other, reg.aliasMap type = .ok groups ∧
    (other ∈ listed groups name ∨ name ∈ listed groups other)

/-- A value that conforms to the type an attribute declares, up to arrays around it, if that has
aliases. -/
def FitsAliased (reg : Registry) (type name : String) (value : Value) : Prop :=
  reg.Aliased type name → ∀ decl attr, reg.type type = .ok decl → decl.attr? name = some attr →
    value.Shaped attr.type.inmost

end Registry

namespace Registry

/-- Both ends of a checked link declare one type up to arrays around it. -/
theorem checkEnds_inmost {attr target : Attr} {link checked : AliasLink}
    (h : checkEnds attr link target = .ok checked) : attr.type.inmost = target.type.inmost := by
  unfold checkEnds at h
  dsimp only at h
  split at h
  · cases h
  · split at h
    · cases h
    · rename_i fits
      rw [Bool.and_eq_true, not_and_or] at fits
      rcases fits with same | inside
      · rw [show attr.type = target.type by simpa using same]
      · have element : target.type.element? = some attr.type := by simpa using inside
        cases array : target.type with
        | array inner =>
          rw [array] at element
          cases element
          rfl
        | _ =>
          rw [array] at element
          cases element

theorem Aims.inmost {source target : String × String} (h : reg.Aims source target)
    {decl decl' : AnnotType} {attr attr' : Attr} (known : reg.type source.1 = .ok decl)
    (found : decl.attr? source.2 = some attr) (known' : reg.type target.1 = .ok decl')
    (found' : decl'.attr? target.2 = some attr') : attr.type.inmost = attr'.type.inmost := by
  obtain ⟨link, linked, rfl⟩ := h
  obtain ⟨decl₁, attr₁, aim, known₁, found₁, _, valid⟩ := aliasLink_declared linked
  cases known.symm.trans known₁
  cases found.symm.trans found₁
  obtain ⟨target, aimed, _, _, ends⟩ := checkAlias_ends valid
  obtain ⟨decl₂, known₂, found₂⟩ := aliasTarget_declared aimed
  cases known'.symm.trans known₂
  cases found'.symm.trans found₂
  exact checkEnds_inmost ends

/-- All that a chain of overrides comes by declares one type up to arrays around it. -/
theorem Targets.inmost {source target : String × String} (h : reg.Targets source target)
    {decl decl' : AnnotType} {attr attr' : Attr} (known : reg.type source.1 = .ok decl)
    (found : decl.attr? source.2 = some attr) (known' : reg.type target.1 = .ok decl')
    (found' : decl'.attr? target.2 = some attr') : attr.type.inmost = attr'.type.inmost := by
  induction h generalizing decl attr with
  | aim aims => exact aims.inmost known found known' found'
  | override aims _ _ ih =>
    obtain ⟨middle, next, declared, there⟩ := aims.declared
    exact (aims.inmost known found declared there).trans (ih declared there known' found')

/-- Attributes of a type that override attributes with aliases of another by their names alone declare
the same type up to arrays around it. -/
def NamesAlike (reg : Registry) (target type : String) : Prop :=
  ∀ decl attr decl' attr', reg.type type = .ok decl → attr ∈ decl.attrs → attr.name ≠ valueAttr →
    reg.overrideName type attr.name target = .ok none → reg.Aliased target attr.name →
    reg.type target = .ok decl' → decl'.attr? attr.name = some attr' →
    attr.type.inmost = attr'.type.inmost

end Registry

/-- A slot shows another: both are given values of which one shows the other, or both hold one
default. -/
inductive Slot.Shows (reg : Registry) (rendering : Rendering) (type name : String) :
    Slot → Slot → Prop
  | given {shown value : Value} : shown.same (rendering.dress value) = true →
    (reg.Aliased type name → value.Filled reg) → reg.FitsAliased type name value →
    Shows reg rendering type name (.given shown) (.given value)
  | default {value : Value} : value.Formed reg →
    Shows reg rendering type name (.default value) (.default value)

/-- Slots that show others name by name. -/
def SlotsShow (reg : Registry) (rendering : Rendering) (type : String) (slots slots' : Entries Slot) :
    Prop :=
  ∀ name, Option.Rel (Slot.Shows reg rendering type name) (slots.get? name) (slots'.get? name)

/-- Pending attributes of a type that show others. -/
structure Pending.Shows (reg : Registry) (rendering : Rendering) (type : String)
    (pending pending' : Pending) : Prop where
  typed : pending.type = type
  typed' : pending'.type = type
  distinct : pending.slots.names.Nodup
  distinct' : pending'.slots.names.Nodup
  slots : SlotsShow reg rendering type pending.slots pending'.slots

/-- Two computations that fail together, with errors that both end a search or both do not. -/
abbrev Registry.InStep {α α' : Type} (reg : Registry) (Q : α → α' → Prop) (f : Action SynthMemo α)
    (g : Action SynthMemo α') : Prop :=
  Matched (Sound reg) Q Error.SameReach f g

/-- What does not depend on what is kept is in step with itself. -/
theorem Registry.inStep_of_alike {α : Type} {f : Action SynthMemo α}
    (h : Alike (fun memo memo' => Sound reg memo ∧ Sound reg memo') f f) : reg.InStep Eq f f :=
  .of_alike (fun _ => rfl) h

/-- An annotation whose explicit values are admitted. To attributes with aliases it gives formed values
that fit what they declare. -/
def Annot.Regular (reg : Registry) (annot : Annot) : Prop :=
  ∀ decl attr value, reg.type annot.type = .ok decl → attr ∈ decl.attrs →
    annot.value? attr.name = some value → value.Admitted reg ∧
      (reg.Aliased annot.type attr.name → value.Formed reg) ∧
      reg.FitsAliased annot.type attr.name value

theorem SlotsShow.put {slots slots' : Entries Slot} {slot slot' : Slot}
    (h : SlotsShow reg rendering type slots slots') (own : slot.Shows reg rendering type name slot') :
    SlotsShow reg rendering type (slots.put name slot) (slots'.put name slot') := by
  intro other
  rw [Entries.get?_put, Entries.get?_put]
  split
  · rename_i same
    exact same ▸ .some own
  · exact h other

/-- What an attribute reads is filled and conforms to the type it declares. -/
theorem View.attr_filled {view : View} {attr : Attr} (coherent : reg.Coherent)
    (found : view.type.attr? attr.name = some attr)
    (h : Yields (Sound reg) (view.attr reg attr.name) (.ok value)) :
    value.conformsTo attr.type = true ∧ value.Filled reg := by
  obtain ⟨picked, _, fitted⟩ := attrWith_ok found h
  exact fit_made (fun _ => .plain) (fun _ => .array)
    (reg.asked_keeps.materialize view.element (reg.nestingBound picked))
    (fun _ _ _ made => materialize_filled coherent made) fitted

theorem Pending.Shows.putGiven {pending pending' : Pending} {shown : Value}
    (h : pending.Shows reg rendering type pending')
    (own : Slot.Shows reg rendering type name (.given shown) (.given value)) :
    (pending.putGiven name shown).Shows reg rendering type (pending'.putGiven name value) :=
  ⟨h.typed, h.typed', Entries.nodup_names_put h.distinct _ _, Entries.nodup_names_put h.distinct' _ _,
    h.slots.put own⟩

theorem Pending.Shows.giveAll {pending pending' : Pending} {shown : Value} {names : List String}
    (h : pending.Shows reg rendering type pending')
    (own : ∀ name ∈ names, Slot.Shows reg rendering type name (.given shown) (.given value)) :
    (pending.giveAll shown names).Shows reg rendering type (pending'.giveAll value names) := by
  induction names generalizing pending pending' with
  | nil => exact h
  | cons name rest ih =>
    exact ih (h.putGiven (own name (.head rest))) fun other mem => own other (.tail name mem)

section

variable (coherent : reg.Coherent) (defaults : reg.DefaultsFormed)

include coherent defaults

/-- An admitted value that fits an attribute is rendered to show a value that fits it. -/
theorem Registry.render_slot (admitted : value.Admitted reg)
    (formed : reg.Aliased type name → value.Formed reg) (fits : reg.FitsAliased type name value) :
    reg.InStep (fun shown whole => Slot.Shows reg rendering type name (.given shown) (.given whole))
      (reg.render element rendering value) (reg.render element .raw value) := by
  refine Matched.sharpen (render_admitted coherent defaults admitted) fun shown whole _ made same => ?_
  have filled (aliased : reg.Aliased type name) :=
    renderAt_filled coherent (fun _ _ _ => (formed aliased).flat) made
  refine .given same (fun aliased => (filled aliased).1) fun aliased decl attr known found => ?_
  obtain ⟨declared, inmost, fits⟩ := fits aliased decl attr known found
  exact ⟨declared, inmost, (filled aliased).2 declared fits⟩

theorem Registry.slotsOf_shows {annot : Annot} {decl : AnnotType} (regular : annot.Regular reg)
    (known : reg.type annot.type = .ok decl) {attrs : List Attr} (sub : attrs ⊆ decl.attrs)
    {slots slots' : Entries Slot} (h : SlotsShow reg rendering annot.type slots slots') :
    reg.InStep (SlotsShow reg rendering annot.type)
      (slotsOf (reg.render element rendering) annot attrs slots)
      (slotsOf (reg.render element .raw) annot attrs slots') := by
  induction attrs generalizing slots slots' with
  | nil => exact .pure h
  | cons attr rest ih =>
    obtain ⟨mem, sub⟩ := List.cons_subset.1 sub
    unfold slotsOf
    cases own : (annot.value? attr.name).or attr.default? with
    | none => exact .throw rfl
    | some value =>
      dsimp only
      split
      · rename_i same
        refine ih sub (h.put (.default ?_))
        cases given : annot.value? attr.name with
        | none =>
          rw [given, Option.none_or] at own
          exact (defaults annot.type decl attr value known mem own).2
        | some value' =>
          -- what is given is as good as the default that it equals
          rw [given] at own
          cases own
          obtain ⟨admitted, _⟩ := regular decl attr value known mem given
          cases default : attr.default? with
          | none =>
            rw [default] at same
            cases same
          | some value' =>
            rw [default] at same
            exact admitted.formed_of_same (same_symm same)
              (defaults annot.type decl attr value' known mem default).2
      · rename_i apart
        cases given : annot.value? attr.name with
        | none =>
          rw [given, Option.none_or] at own
          rw [own, Value.sameOption_refl] at apart
          cases apart rfl
        | some value' =>
          rw [given] at own
          cases own
          obtain ⟨admitted, formed, fits⟩ := regular decl attr value known mem given
          have slot : reg.InStep (Slot.Shows reg rendering annot.type attr.name)
              (Slot.given <$> reg.render element rendering value)
              (Slot.given <$> reg.render element .raw value) :=
            Paired.map (render_slot coherent defaults admitted formed fits) fun _ _ => id
          exact slot.bind fun slot slot' own => ih sub (h.put own)

/-- An annotation gives slots that show each other. -/
theorem Registry.retrieve_shows {annot : Annot} (regular : annot.Regular reg) :
    reg.InStep (Pending.Shows reg rendering annot.type)
      (reg.retrieve element rendering annot) (reg.retrieve element .raw annot) := by
  have slots : reg.InStep (fun pending pending' => pending.type = annot.type ∧
      pending'.type = annot.type ∧ SlotsShow reg rendering annot.type pending.slots pending'.slots)
      (reg.retrieve element rendering annot) (reg.retrieve element .raw annot) := by
    cases known : reg.type annot.type with
    | error e =>
      unfold retrieve retrieveWith
      rw [known]
      exact .throw rfl
    | ok decl =>
      unfold retrieve retrieveWith
      rw [known]
      exact (slotsOf_shows coherent defaults regular known (List.Subset.refl _) fun _ => .none).bind
        fun slots slots' show' => .pure ⟨rfl, rfl, show'⟩
  refine Matched.sharpen slots fun pending pending' made made' ⟨types, types', slots⟩ => ?_
  obtain ⟨_, _, origin⟩ := retrieveWith_from (reg.asked_keeps.render element rendering) made
  obtain ⟨_, _, origin'⟩ := retrieveWith_from (reg.asked_keeps.render element .raw) made'
  exact ⟨types, types', origin.distinct, origin'.distinct, slots⟩

/-- What overrides by one attribute is read alike, and what is written shows what is written. -/
theorem Merge.writeAll_shows {target : String} {view : View} {attr : Attr} {names : List String}
    {pending pending' : Pending}
    (found : view.type.attr? attr.name = some attr)
    (fits : ∀ name ∈ names, ∀ value, value.conformsTo attr.type = true →
      reg.FitsAliased type name value)
    (h : pending.Shows reg rendering type pending') :
    reg.InStep (Pending.Shows reg rendering type)
      (Merge.writeAll ⟨reg, target, rendering⟩ element view attr.name names pending)
      (Merge.writeAll ⟨reg, target, .raw⟩ element view attr.name names pending') := by
  have reads : reg.InStep (fun value value' => value = value' ∧
      value.conformsTo attr.type = true ∧ value.Filled reg)
      (view.attr reg attr.name) (view.attr reg attr.name) := by
    have asked := asked_alike coherent.valid coherent.known
    refine Matched.sharpen (inStep_of_alike (asked.attr view attr.name)) fun value _ read _ same => ?_
    exact ⟨same, View.attr_filled coherent found read⟩
  refine reads.bind ?_
  rintro value _ ⟨rfl, conforms, filled⟩
  refine Paired.bind (Q := fun shown rendered => ∀ name ∈ names,
      Slot.Shows reg rendering type name (.given shown) (.given rendered)) ?_
    fun shown rendered own => .pure (h.giveAll own)
  refine Matched.sharpen (render_admitted coherent defaults (filled.formed coherent).admitted)
    fun shown rendered _ made same name mem => ?_
  obtain ⟨complete, kept⟩ := renderAt_filled coherent (fun _ _ _ => filled.flat) made
  exact .given same (fun _ => complete) (fits name mem rendered (kept attr.type conforms))

omit defaults in
/-- What overrides a member of an alias group fits all of it. -/
theorem Registry.overrideName_fits {view : View} {attr : Attr} {groups : Entries (List String)}
    {annot : Annot} {target other : String}
    (of : view.Of reg (.annot annot) annot.type) (found : view.type.attr? attr.name = some attr)
    (mapped : reg.aliasMap type = .ok groups)
    (lands : reg.overrideName view.name attr.name type = .ok (some target))
    (mem : other ∈ aliasGroup groups target) (conforms : value.conformsTo attr.type = true) :
    reg.FitsAliased type other value := by
  intro _ decl attr' known found'
  have behind := overrideName_behind lands
  rw [of.named] at behind
  obtain ⟨decl₁, first, known₁, found₁⟩ := behind.declared
  cases known.symm.trans known₁
  have inmost := behind.inmost of.type found known found₁
  refine ⟨attr.type, ?_, conforms⟩
  rcases List.mem_cons.1 mem with rfl | listed
  · cases found'.symm.trans found₁
    exact inmost
  · have types := coherent.types type decl groups target other first attr' known mapped listed found₁
      found'
    rw [inmost, types]

variable {target : String} {annot : Annot} (alike : reg.NamesAlike type annot.type)

include alike

theorem Merge.overlay_shows {view : View} (of : view.Of reg (.annot annot) annot.type)
    {groups : Entries (List String)} (mapped : reg.aliasMap type = .ok groups) {attrs : List Attr}
    (sub : attrs ⊆ view.type.attrs) {written : List String} {pending pending' : Pending}
    (h : pending.Shows reg rendering type pending') :
    reg.InStep (Pending.Shows reg rendering type)
      (Merge.overlay ⟨reg, target, rendering⟩ element view groups attrs written pending)
      (Merge.overlay ⟨reg, target, .raw⟩ element view groups attrs written pending') := by
  induction attrs generalizing written pending pending' with
  | nil => exact .pure h
  | cons attr rest ih =>
    obtain ⟨mem, sub⟩ := List.cons_subset.1 sub
    have distinct := coherent.distinct annot.type view.type of.type
    have found := attr?_of_mem distinct mem
    have asks : reg.InStep (fun aim aim' => aim = aim' ∧
        reg.overrideName view.name attr.name type = .ok aim)
        (reg.recallOverrideName view.name attr.name type)
        (reg.recallOverrideName view.name attr.name type) := by
      have asked := asked_alike coherent.valid coherent.known
      refine Matched.sharpen (inStep_of_alike (asked.overrideName _ _ _)) fun aim _ answer _ same => ?_
      exact ⟨same, (answer.computes (reg.recallOverrideName_computes _ _ _)).symm⟩
    unfold overlay
    rw [h.typed, h.typed']
    refine asks.bind ?_
    rintro aim _ ⟨rfl, lands⟩
    cases aim with
    | some name =>
      dsimp only
      split
      · exact ih sub h
      · refine (writeAll_shows coherent defaults found (fun other mem value conforms => ?_) h).bind
          fun pending pending' h => ih sub h
        exact overrideName_fits coherent of found mapped lands (mem_unwritten.1 mem).1 conforms
    | none =>
      have there : pending.slots.has attr.name = pending'.slots.has attr.name := by
        have here := h.slots attr.name
        unfold Entries.has
        generalize pending.slots.get? attr.name = left at here
        generalize pending'.slots.get? attr.name = right at here
        cases here <;> rfl
      dsimp only
      rw [there]
      split
      · rename_i named
        obtain ⟨apart, _⟩ := Bool.and_eq_true_iff.1 named
        refine (writeAll_shows coherent defaults found (fun other mem' value conforms => ?_) h).bind
          fun pending pending' h => ih sub h
        rw [List.mem_singleton.1 mem']
        intro aliased decl attr' known found'
        rw [of.named] at lands
        exact ⟨attr.type, alike view.type attr decl attr' of.type mem (by simpa using apart) lands
          aliased known found', conforms⟩
      · exact ih sub h

/-- An annotation overrides what shows each other in step. -/
theorem Merge.override_shows {pending pending' : Pending}
    (h : pending.Shows reg rendering type pending') :
    reg.InStep (Pending.Shows reg rendering type)
      (Merge.override ⟨reg, target, rendering⟩ element annot pending)
      (Merge.override ⟨reg, target, .raw⟩ element annot pending') := by
  have asked := asked_alike coherent.valid coherent.known
  unfold override
  rw [h.typed, h.typed']
  refine Paired.bind (Q := fun view view' => view = view' ∧ view.Of reg (.annot annot) annot.type) ?_ ?_
  · refine Matched.sharpen (inStep_of_alike (asked.viewAnnot annot _)) fun view _ seen _ same => ?_
    exact ⟨same, viewAnnot_of seen⟩
  · rintro view _ ⟨rfl, of⟩
    refine Paired.bind (Q := fun groups groups' => groups = groups' ∧ reg.aliasMap type = .ok groups)
      ?_ ?_
    · refine Matched.sharpen (inStep_of_alike (asked.aliasMap type)) fun groups _ made _ same => ?_
      exact ⟨same, (made.computes (reg.recallAliasMap_computes _)).symm⟩
    · rintro groups _ ⟨rfl, mapped⟩
      exact overlay_shows coherent defaults alike of mapped (List.Subset.refl _) h

end

end Annotations
