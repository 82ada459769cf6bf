import Annotations.Proofs.Merge.Conflicts
import Annotations.Proofs.Merge.Direction

/-!
How two attributes of a merge can come to hold different values. Along a trail both stay as the last
annotation left them, or both take one value, unless an annotation before the last writes one of
them and leaves the other: by its name, or as an override of a group that holds only one of the two.
-/
namespace Annotations

open Annotations.Action SynthMemo Registry

/-- An attribute of an annotation type that writes one name of a target type and leaves another: it
has that name and overrides nothing, or it overrides a group with only that one of the two. -/
def Registry.AimsApart (reg : Registry) (target : String) (groups : Entries (List String))
    (name other type : String) (attr : Attr) : Prop :=
  reg.NamesInto target [name] type attr ∨ ∃ aimed, name ∈ aliasGroup groups aimed ∧
    other ∉ aliasGroup groups aimed ∧ reg.overrideName type attr.name target = .ok (some aimed)

/-- A value that some annotation of a trail has for an attribute that writes one name and leaves
another. -/
def Merge.GivesApart (merge : Merge) (groups : Entries (List String)) (trail : Trail)
    (name other : String) (value : Value) : Prop :=
  ∃ step ∈ trail, ∃ decl, merge.reg.type step.2.type = .ok decl ∧ ∃ attr ∈ decl.attrs,
    merge.reg.AimsApart merge.target groups name other step.2.type attr ∧
    merge.Synthesizes step.1 step.2 attr.name value

namespace Pending

variable {base pending : Pending} {apart apart' : String → String → Value → Prop} {p q : String}

/-- An attribute holds a value that was written to it and not to another. -/
def Leads (apart : String → String → Value → Prop) (p q : String) (pending : Pending) : Prop :=
  ∃ value, apart p q value ∧ pending.slots.get? p = some (.given value)

/-- What two attributes can hold where others overlaid what they held at first. -/
inductive Rivals (base : Pending) (apart : String → String → Value → Prop) (p q : String)
    (pending : Pending) : Prop
  | kept : pending.slots.get? p = base.slots.get? p → pending.slots.get? q = base.slots.get? q →
    Rivals base apart p q pending
  | agree {value : Value} : pending.slots.get? p = some (.given value) →
    pending.slots.get? q = some (.given value) → Rivals base apart p q pending
  | first : pending.Leads apart p q → Rivals base apart p q pending
  | second : pending.Leads apart q p → Rivals base apart p q pending

theorem Leads.mono (more : ∀ p q value, apart p q value → apart' p q value)
    (h : pending.Leads apart p q) : pending.Leads apart' p q := by
  obtain ⟨value, own, held⟩ := h
  exact ⟨value, more p q value own, held⟩

theorem Leads.congr {pending' : Pending} (same : pending'.slots.get? p = pending.slots.get? p)
    (h : pending.Leads apart p q) : pending'.Leads apart p q := by
  obtain ⟨value, own, held⟩ := h
  exact ⟨value, own, same.trans held⟩

theorem Rivals.mono (more : ∀ p q value, apart p q value → apart' p q value)
    (h : Rivals base apart p q pending) : Rivals base apart' p q pending := by
  cases h with
  | kept left right => exact .kept left right
  | agree left right => exact .agree left right
  | first leads => exact .first (leads.mono more)
  | second leads => exact .second (leads.mono more)

theorem Rivals.symm (h : Rivals base apart p q pending) : Rivals base apart q p pending := by
  cases h with
  | kept left right => exact .kept right left
  | agree left right => exact .agree right left
  | first leads => exact .second leads
  | second leads => exact .first leads

theorem Rivals.congr {pending' : Pending} (left : pending'.slots.get? p = pending.slots.get? p)
    (right : pending'.slots.get? q = pending.slots.get? q) (h : Rivals base apart p q pending) :
    Rivals base apart p q pending' := by
  cases h with
  | kept left' right' => exact .kept (left.trans left') (right.trans right')
  | agree left' right' => exact .agree (left.trans left') (right.trans right')
  | first leads => exact .first (leads.congr left)
  | second leads => exact .second (leads.congr right)

/-- Pending attributes that others overlaid: no attribute went back to a default. -/
structure Over (base pending : Pending) : Prop where
  type : pending.type = base.type
  distinct : pending.slots.names.Nodup
  default : ∀ name value, pending.slots.get? name = some (.default value) →
    base.slots.get? name = some (.default value)

theorem Over.putGiven (h : base.Over pending) (name : String) (value : Value) :
    base.Over (pending.putGiven name value) where
  type := h.type
  distinct := Entries.nodup_names_put h.distinct name _
  default other value' own := by
    rw [putGiven_get?] at own
    split at own
    · cases own
    · exact h.default other value' own

end Pending

namespace Merge

variable {merge : Merge} {element : Element} {view : View} {groups : Entries (List String)}
  {base pending : Pending} {apart : String → String → Value → Prop} {p q aimed : String}
  {written : List String} {value : Value}

/-- What holds of two attributes between the attributes of one annotation: where only one of them is
written so far, it holds what was written to it alone. -/
structure Contest (base : Pending) (apart : String → String → Value → Prop) (p q : String)
    (state : List String × Pending) : Prop where
  rivals : Pending.Rivals base apart p q state.2
  written : (p ∈ state.1 ↔ q ∈ state.1) ∨ (p ∈ state.1 ∧ state.2.Leads apart p q) ∨
    (q ∈ state.1 ∧ state.2.Leads apart q p)

namespace Contest

theorem symm {state : List String × Pending} (h : Contest base apart p q state) :
    Contest base apart q p state where
  rivals := h.rivals.symm
  written := by
    rcases h.written with both | left | right
    · exact .inl both.symm
    · exact .inr (.inr left)
    · exact .inr (.inl right)

theorem congr {start stop : List String × Pending} (h : Contest base apart p q start)
    (left : stop.2.slots.get? p = start.2.slots.get? p)
    (right : stop.2.slots.get? q = start.2.slots.get? q) (writtenLeft : p ∈ stop.1 ↔ p ∈ start.1)
    (writtenRight : q ∈ stop.1 ↔ q ∈ start.1) : Contest base apart p q stop where
  rivals := h.rivals.congr left right
  written := by
    rw [writtenLeft, writtenRight]
    exact h.written.imp_right
      (Or.imp (And.imp_right fun leads => leads.congr left)
        (And.imp_right fun leads => leads.congr right))

/-- A write to one name leaves the contest of the two settled by it. -/
theorem named (h : Contest base apart p q (written, pending)) (differ : p ≠ q)
    (own : apart p q value) : Contest base apart p q (written, pending.putGiven p value) := by
  have leads : (pending.putGiven p value).Leads apart p q :=
    ⟨value, own, by rw [Pending.putGiven_get?, if_pos rfl]⟩
  have other : (pending.putGiven p value).slots.get? q = pending.slots.get? q := by
    rw [Pending.putGiven_get?, if_neg differ]
  refine ⟨.first leads, ?_⟩
  rcases h.written with both | ⟨there, _⟩ | ⟨there, later⟩
  · exact .inl both
  · exact .inr (.inl ⟨there, leads⟩)
  · exact .inr (.inr ⟨there, later.congr other⟩)

/-- An override that writes one of the two names: the other is not in the group or was written
already. -/
theorem one (h : Contest base apart p q (written, pending)) (mem : p ∈ aliasGroup groups aimed)
    (fresh : p ∉ written) (skip : q ∈ aliasGroup groups aimed → q ∈ written)
    (own : q ∉ aliasGroup groups aimed → apart p q value) :
    Contest base apart p q ((unwritten (aliasGroup groups aimed) written).2,
      pending.giveAll value (unwritten (aliasGroup groups aimed) written).1) := by
  have here : p ∈ (unwritten (aliasGroup groups aimed) written).2 :=
    mem_unwritten_written.2 (.inl mem)
  by_cases inside : q ∈ aliasGroup groups aimed
  · have before := skip inside
    have unchanged :
        (pending.giveAll value (unwritten (aliasGroup groups aimed) written).1).slots.get? q =
        pending.slots.get? q := by
      rw [Pending.giveAll_get?, if_neg]
      exact fun target => (mem_unwritten.1 target).2 before
    have there : q ∈ (unwritten (aliasGroup groups aimed) written).2 :=
      mem_unwritten_written.2 (.inl inside)
    -- only the other name was written before, so it holds what was written to it alone
    rcases h.written with both | ⟨early, _⟩ | ⟨_, leads⟩
    · exact absurd (both.2 before) fresh
    · exact absurd early fresh
    · exact ⟨.second (leads.congr unchanged), .inl ⟨fun _ => there, fun _ => here⟩⟩
  · have leads :
        (pending.giveAll value (unwritten (aliasGroup groups aimed) written).1).Leads
          apart p q := by
      refine ⟨value, own inside, ?_⟩
      rw [Pending.giveAll_get?, if_pos (mem_unwritten.2 ⟨mem, fresh⟩)]
    exact ⟨.first leads, .inr (.inl ⟨here, leads⟩)⟩

/-- An override writes both names, one of them or none. -/
theorem group (h : Contest base apart p q (written, pending))
    (own : ∀ name other, name ∈ aliasGroup groups aimed → other ∉ aliasGroup groups aimed →
      apart name other value) :
    Contest base apart p q ((unwritten (aliasGroup groups aimed) written).2,
      pending.giveAll value (unwritten (aliasGroup groups aimed) written).1) := by
  have get (name : String) := @Pending.giveAll_get? pending value
    (unwritten (aliasGroup groups aimed) written).1 name
  have stays {name : String} (out : ¬ (name ∈ aliasGroup groups aimed ∧ name ∉ written)) :
      name ∈ (unwritten (aliasGroup groups aimed) written).2 ↔ name ∈ written := by
    rw [mem_unwritten_written]
    tauto
  by_cases left : p ∈ aliasGroup groups aimed ∧ p ∉ written
  · by_cases right : q ∈ aliasGroup groups aimed ∧ q ∉ written
    · have one := (get p).trans (if_pos (mem_unwritten.2 left))
      have other := (get q).trans (if_pos (mem_unwritten.2 right))
      exact ⟨.agree one other, .inl (iff_of_true (mem_unwritten_written.2 (.inl left.1))
        (mem_unwritten_written.2 (.inl right.1)))⟩
    · exact h.one left.1 left.2 (fun inside => by tauto) (own p q left.1)
  · by_cases right : q ∈ aliasGroup groups aimed ∧ q ∉ written
    · exact (h.symm.one right.1 right.2 (fun inside => by tauto) (own q p right.1)).symm
    · refine h.congr ?_ ?_ (stays left) (stays right)
      · exact (get p).trans (if_neg fun target => left (mem_unwritten.1 target))
      · exact (get q).trans (if_neg fun target => right (mem_unwritten.1 target))

end Contest

/-- What attributes write to one of two names alone is all that can tell them apart. -/
theorem Writes.contest (differ : p ≠ q) {attr : Attr} {start stop : List String × Pending}
    (h : Writes merge element view groups attr start stop)
    (own : ∀ name other value, merge.reg.AimsApart start.2.type groups name other view.name attr →
      Yields (Sound merge.reg) (merge.read element view attr.name) (.ok value) →
      apart name other value)
    (before : Contest base apart p q start) : Contest base apart p q stop := by
  cases h with
  | group lands fresh reads =>
    exact before.group fun name other mem out => own name other _ (.inr ⟨_, mem, out, lands⟩) reads
  | again _ _ => exact before
  | @named value written pending none unlike _ reads =>
    have alone (other : String) : apart attr.name other value :=
      own attr.name other value (.inl ⟨.head _, unlike, none⟩) reads
    by_cases left : attr.name = p
    · subst left
      exact before.named differ (alone q)
    · by_cases right : attr.name = q
      · subst right
        exact (before.symm.named differ.symm (alone p)).symm
      · refine before.congr ?_ ?_ .rfl .rfl
        · rw [Pending.putGiven_get?, if_neg left]
        · rw [Pending.putGiven_get?, if_neg right]
  | pass _ => exact before

theorem Overlays.contest (differ : p ≠ q) {attrs : List Attr} {start stop : List String × Pending}
    (h : Overlays merge element view groups attrs start stop)
    (own : ∀ attr ∈ attrs, ∀ name other value,
      merge.reg.AimsApart start.2.type groups name other view.name attr →
      Yields (Sound merge.reg) (merge.read element view attr.name) (.ok value) →
      apart name other value)
    (before : Contest base apart p q start) : Contest base apart p q stop := by
  induction h with
  | nil => exact before
  | cons writes _ ih =>
    refine ih (fun attr mem => ?_) (writes.contest differ (own _ (.head _)) before)
    rw [writes.type]
    exact own attr (.tail _ mem)

/-- What a merge makes of a trail comes from the last annotation, and two attributes are told apart
only by values that annotations before the last wrote to one of them alone. -/
structure Descends (merge : Merge) (outer : Trail) (element : Element) (annot : Annot)
    (decl : AnnotType) (base pending : Pending) : Prop where
  own : annot.type = merge.target
  known : merge.reg.type annot.type = .ok decl
  origin : base.From (Sound merge.reg) (merge.reg.render element merge.rendering) annot decl
  overlaid : base.Over pending
  rivals : ∀ groups, merge.reg.aliasMap merge.target = .ok groups → ∀ p q, p ≠ q →
    Pending.Rivals base (merge.GivesApart groups outer) p q pending

theorem Descends.type {outer : Trail} {annot : Annot} {decl : AnnotType}
    (h : merge.Descends outer element annot decl base pending) : pending.type = merge.target :=
  h.overlaid.type.trans (h.origin.type.trans h.own)

theorem builds_descends {trail : Trail}
    (h : merge.processor.Builds (Sound merge.reg) trail pending) :
    ∃ outer element annot decl base, trail = outer ++ [(element, annot)] ∧
      merge.Descends outer element annot decl base pending := by
  refine builds_induction
    (P := fun trail pending => ∃ outer element annot decl base,
      trail = outer ++ [(element, annot)] ∧ merge.Descends outer element annot decl base pending)
    (fun element annot pending own retrieved => ?last)
    (fun element annot trail inner pending view groups written _ ih seen mapped overlays => ?step) h
  case last =>
    obtain ⟨decl, known, origin⟩ :=
      retrieveWith_from (merge.reg.asked_keeps.render element merge.rendering) retrieved
    exact ⟨[], element, annot, decl, pending, rfl, own, known, origin,
      ⟨rfl, origin.distinct, fun _ _ own => own⟩, fun _ _ _ _ _ => .kept rfl rfl⟩
  case step =>
    obtain ⟨outer, last, annot', decl, base, rfl, descends⟩ := ih
    have of := viewAnnot_of seen
    refine ⟨(element, annot) :: outer, last, annot', decl, base, rfl, descends.own, descends.known,
      descends.origin,
      overlays.keeps (fun _ name value h => h.putGiven name value) descends.overlaid,
      fun groups' mapped' p q differ => ?_⟩
    rw [descends.type] at mapped
    cases mapped.symm.trans mapped'
    have later : ∀ name other value, merge.GivesApart groups outer name other value →
        merge.GivesApart groups ((element, annot) :: outer) name other value :=
      fun name other value ⟨step, mem, found⟩ => ⟨step, .tail _ mem, found⟩
    have before := (descends.rivals groups mapped p q differ).mono later
    refine (overlays.contest differ (fun attr mem name other value aims reads => ?_)
      ⟨before, .inl (by simp)⟩).rivals
    rw [descends.type, of.named] at aims
    exact ⟨(element, annot), .head _, view.type, of.type, attr, mem, aims, view, seen, reads⟩

end Merge
end Annotations
