import Annotations.Proofs.Merge.Drawn

/-!
The layout of merged stores: names stand in them as the type declares its attributes. An annotation by
itself gives every attribute a slot, in their order; an override, the completion of an alias group and
the last step write only to names that are there, and so add none and move none.
-/
namespace Annotations

open Annotations.Action SynthMemo Registry

variable {reg : Registry} {decl : AnnotType} {render : Value → Action SynthMemo Value}

/-- The slots of a type, one for each declared attribute and in their order. -/
structure Pending.Laid (reg : Registry) (decl : AnnotType) (pending : Pending) : Prop where
  known : reg.type pending.type = .ok decl
  names : pending.slots.names = decl.attrs.map (·.name)

namespace Pending

variable {pending : Pending} {value : Value} {name type elementText : String}
  {declared : Entries Value} {slots slots' : Entries Slot}

theorem giveAll_names {names : List String} (there : ∀ name ∈ names, name ∈ pending.slots.names) :
    (pending.giveAll value names).slots.names = pending.slots.names := by
  induction names generalizing pending with
  | nil => rfl
  | cons name rest ih =>
    have same : (pending.putGiven name value).slots.names = pending.slots.names :=
      Entries.names_put_of_mem (there name (.head rest)) _
    exact (ih fun other mem => same ▸ there other (.tail name mem)).trans same

theorem Laid.giveAll (h : pending.Laid reg decl) {names : List String}
    (there : ∀ name ∈ names, name ∈ decl.attrs.map (·.name)) :
    (pending.giveAll value names).Laid reg decl where
  known := by
    rw [giveAll_type]
    exact h.known
  names := (giveAll_names fun name mem => h.names ▸ there name mem).trans h.names

theorem shareAmong_names {partners : List String} (there : name ∈ slots.names)
    (h : shareAmong type elementText declared name partners slots = .ok slots') :
    slots'.names = slots.names := by
  induction partners generalizing slots with
  | nil =>
    cases h
    rfl
  | cons partner rest ih =>
    rw [shareAmong] at h
    split at h
    · split at h
      · exact ih there h
      · cases h
    · split at h
      · exact ih there h
      · have same := Entries.names_put_of_mem there
        exact (ih (same _ ▸ there) h).trans (same _)
    · exact ih there h

/-- Completing alias groups of names that have slots leaves all names in their places. -/
theorem shareAll_names {groups : Entries (List String)}
    (there : ∀ name ∈ groups.names, name ∈ slots.names)
    (h : shareAll type elementText declared groups slots = .ok slots') :
    slots'.names = slots.names := by
  induction groups generalizing slots with
  | nil =>
    cases h
    rfl
  | cons group rest ih =>
    obtain ⟨name, partners⟩ := group
    obtain ⟨middle, among, h⟩ := Outcome.bind_ok h
    have same := shareAmong_names (there name (.head _)) among
    exact (ih (fun other mem => same ▸ there other (.tail name mem)) h).trans same

end Pending

namespace Registry

section

variable {I : SynthMemo → Prop} (keeps : ∀ value, Keeps I (render value))

include keeps

/-- Attributes of distinct names get slots one after another, behind those that are there. -/
theorem slotsOf_names {annot : Annot} {attrs : List Attr} {slots slots' : Entries Slot}
    (distinct : (slots.names ++ attrs.map (·.name)).Nodup)
    (h : Yields I (slotsOf render annot attrs slots) (.ok slots')) :
    slots'.names = slots.names ++ attrs.map (·.name) := by
  induction attrs generalizing slots with
  | nil =>
    cases h.pure
    simp
  | cons attr rest ih =>
    obtain ⟨slot, _, h⟩ := slotsOf_cons keeps h
    have fresh : attr.name ∉ slots.names := fun mem =>
      (List.nodup_append.1 distinct).2.2 _ mem _ (.head _) rfl
    have put := Entries.names_put_of_fresh fresh slot
    rw [List.map_cons, List.append_cons, ← put] at distinct ⊢
    exact ih distinct h

/-- A store takes over the names of its slots, behind those that it has. -/
theorem storeSlots_names {slots : Entries Slot} {store store' : Store}
    (distinct : (store.names ++ slots.names).Nodup)
    (h : Yields I (storeSlots render slots store) (.ok store')) :
    store'.names = store.names ++ slots.names := by
  induction slots generalizing store with
  | nil =>
    cases h.pure
    simp
  | cons entry rest ih =>
    obtain ⟨name, slot⟩ := entry
    obtain ⟨value, _, h⟩ := storeSlots_cons keeps h
    have fresh : name ∉ store.names := fun mem =>
      (List.nodup_append.1 distinct).2.2 _ mem _ (.head _) rfl
    have put : (store.put name value).names = store.names ++ [name] :=
      Entries.names_put_of_fresh fresh value
    rw [Entries.names_cons, List.append_cons, ← put] at distinct ⊢
    exact ih distinct h

end

variable (keeps : ∀ value, Keeps (Sound reg) (render value))

include keeps

theorem retrieveWith_laid {annot : Annot} {pending : Pending}
    (known : reg.type annot.type = .ok decl) (distinct : (decl.attrs.map (·.name)).Nodup)
    (h : Yields (Sound reg) (reg.retrieveWith render annot) (.ok pending)) :
    pending.Laid reg decl := by
  obtain ⟨decl', known', h⟩ := h.bind_ok (reg.asked_keeps.lift _)
  cases known.symm.trans known'.lift.symm
  obtain ⟨slots, made, h⟩ := h.bind_ok (reg.asked_keeps.slotsOf keeps annot decl.attrs [])
  cases h.pure
  exact ⟨known, slotsOf_names keeps (by simpa using distinct) made⟩

/-- The store of slots that are laid out as their type declares is of that type and so laid out. -/
theorem finishWith_laid {element : Element} {pending : Pending} {store : Store}
    (laid : pending.Laid reg decl) (distinct : (decl.attrs.map (·.name)).Nodup)
    (h : Yields (Sound reg) (reg.finishWith render element pending) (.ok store)) :
    store.type = some pending.type ∧ store.names = decl.attrs.map (·.name) := by
  obtain ⟨groups, slots, mapped, shared, h⟩ := finishWith_slots h
  obtain ⟨_, map⟩ := aliasMapOf_aliasMap mapped
  cases laid.known.symm.trans map.known
  have same : slots.names = decl.attrs.map (·.name) :=
    (Pending.shareAll_names (fun name mem => laid.names ▸ map.declared name (by
      rw [Entries.has, Option.isSome_iff_ne_none]
      exact mt Entries.get?_eq_none_iff.1 (not_not.2 mem))) shared).trans laid.names
  rw [← same] at distinct ⊢
  have fresh : ((Store.ofType pending.type).names ++ slots.names).Nodup := distinct
  exact ⟨storeSlots_type keeps h, storeSlots_names keeps fresh h⟩

end Registry

namespace Merge

variable {merge : Merge} {element : Element} {view : View} {groups : Entries (List String)}

/-- What an attribute writes leaves all names in their places. -/
theorem Writes.laid {attr : Attr} {start stop : List String × Pending}
    (h : Writes merge element view groups attr start stop)
    (mapped : merge.reg.aliasMap start.2.type = .ok groups) (before : start.2.Laid merge.reg decl) :
    stop.2.Laid merge.reg decl := by
  rcases h.gives mapped before.known with same | ⟨names, value, _, same, there⟩
  · rwa [same]
  · rw [same]
    refine before.giveAll fun name mem => (there name mem).elim id fun has => ?_
    exact before.names ▸ Entries.mem_names_of_has has

/-- Whatever a merge makes of a trail is laid out as the type that it is for declares. -/
theorem builds_laid (known : merge.reg.type merge.target = .ok decl)
    (distinct : (decl.attrs.map (·.name)).Nodup) {trail : Trail} {pending : Pending}
    (h : merge.processor.Builds (Sound merge.reg) trail pending) :
    pending.type = merge.target ∧ pending.Laid merge.reg decl := by
  refine builds_induction
    (P := fun _ pending => pending.type = merge.target ∧ pending.Laid merge.reg decl)
    (fun element annot pending own retrieved => ?last)
    (fun element annot trail inner pending view groups written _ ih _ mapped overlays => ?step) h
  case last =>
    have keeps := merge.reg.asked_keeps.render element merge.rendering
    obtain ⟨_, _, origin⟩ := retrieveWith_from keeps retrieved
    exact ⟨origin.type.trans own, retrieveWith_laid keeps (own ▸ known) distinct retrieved⟩
  case step =>
    obtain ⟨type, laid⟩ := ih
    refine overlays.keeps_by
      (P := fun pending => pending.type = merge.target ∧ pending.Laid merge.reg decl)
      (fun attr start stop writes before => ?_) ⟨type, laid⟩
    rw [type, ← before.1] at mapped
    exact ⟨writes.type.trans before.1, writes.laid mapped before.2⟩

end Merge

/-- The store of a single annotation is of its type and laid out as that declares. -/
theorem Registry.annotAttributes_laid {element : Element} {rendering : Rendering} {annot : Annot}
    {store : Store} (known : reg.type annot.type = .ok decl)
    (distinct : (decl.attrs.map (·.name)).Nodup)
    (h : Yields (Sound reg) (reg.annotAttributes element rendering annot) (.ok store)) :
    store.type = some annot.type ∧ store.names = decl.attrs.map (·.name) := by
  have keeps := reg.asked_keeps.render element rendering
  obtain ⟨pending, retrieved, finished⟩ := h.bind_ok (reg.asked_keeps.retrieve _ _ _)
  obtain ⟨_, _, origin⟩ := retrieveWith_from keeps retrieved
  rw [← origin.type]
  exact finishWith_laid keeps (retrieveWith_laid keeps known distinct retrieved) distinct finished

end Annotations
