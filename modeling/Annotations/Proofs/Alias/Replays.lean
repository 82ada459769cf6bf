import Annotations.Proofs.Alias.History
import Annotations.Proofs.Merge.Questions

/-!
Views and merges run once more end as before. What succeeded does so from any memo that kept its
answers on synthesizability, and what failed from any that has the same of them; neither adds another.
-/
namespace Annotations

open Annotations.Action SynthMemo

/-- The answers on synthesizability are still there later on. -/
def SynthMemo.Within (memo later : SynthMemo) : Prop :=
  ∀ type answer, memo.synthesizable.find? type = some answer →
    later.synthesizable.find? type = some answer

theorem SynthMemo.Within.refl (memo : SynthMemo) : memo.Within memo := fun _ _ kept => kept

theorem SynthMemo.Within.trans {memo middle later : SynthMemo} (h : memo.Within middle)
    (h' : middle.Within later) : memo.Within later :=
  fun type answer kept => h' type answer (h type answer kept)

theorem SynthMemo.Within.of_eq {memo later : SynthMemo}
    (h : later.synthesizable = memo.synthesizable) : memo.Within later :=
  fun _ _ kept => h ▸ kept

/-- A computation loses no answer, and run once more it ends as before without a new one. -/
structure Replays (reg : Registry) {α : Type} (f : Action SynthMemo α) : Prop where
  keeps : Keeps (Sound reg) f
  within : ∀ memo, Sound reg memo → memo.Within (f memo).2
  ok : ∀ memo a, Sound reg memo → (f memo).1 = .ok a → ∀ later, Sound reg later →
    (f memo).2.Within later → (f later).1 = .ok a ∧ Answers later.synthesizable (f later).2
  error : ∀ memo e, Sound reg memo → (f memo).1 = .error e → ∀ later, Sound reg later →
    Answers (f memo).2.synthesizable later →
    (f later).1 = .error e ∧ Answers later.synthesizable (f later).2

namespace SynthMemo

/-- Right answers found at different times can be kept together. -/
theorem Sound.joined {reg : Registry} {memo memo' : SynthMemo} (h : Sound reg memo)
    (h' : Sound reg memo') : ∃ later, Sound reg later ∧ memo.Within later ∧ memo'.Within later := by
  have either (type : String) (answer : Bool) (kept : Table.find?
      (memo.synthesizable ++ memo'.synthesizable) type = some answer) :
      memo.synthesizable.find? type = some answer ∨ memo'.synthesizable.find? type = some answer := by
    rw [Table.find?_append] at kept
    exact (Option.or_eq_some_iff.1 kept).imp_right And.right
  refine ⟨{ memo with synthesizable := memo.synthesizable ++ memo'.synthesizable },
    ⟨h.links, h.groups, h.metaPresent, fun type kept => ?_, fun type kept => ?_⟩,
    fun type answer kept => ?_, fun type answer kept => ?_⟩
  · exact (either type true kept).elim (h.aliased type) (h'.aliased type)
  · exact (either type false kept).elim (h.plain type) (h'.plain type)
  · rw [Table.find?_append, kept]
    rfl
  · -- two answers about one type would be right only if they are the same
    rw [Table.find?_append]
    cases first : memo.synthesizable.find? type with
    | none => exact kept
    | some answer' =>
      cases answer <;> cases answer'
      · rfl
      · exact absurd (h.aliased type first) (h'.plain type kept).not_aliasWithin
      · exact absurd (h'.aliased type kept) (h.plain type first).not_aliasWithin
      · rfl

end SynthMemo

namespace Replays

variable {reg : Registry} {α β : Type}

theorem again {f : Action SynthMemo α} (h : Replays reg f) {memo : SynthMemo}
    (sound : Sound reg memo) : (f (f memo).2).1 = (f memo).1 := by
  have after := h.keeps memo sound
  cases first : (f memo).1 with
  | ok a => exact (h.ok memo a sound first _ after (.refl _)).1
  | error e => exact (h.error memo e sound first _ after rfl).1

/-- Whatever was kept before, there is only one result to have. -/
theorem ok_unique {f : Action SynthMemo α} (h : Replays reg f) {a b : α}
    (first : Yields (Sound reg) f (.ok a)) (second : Yields (Sound reg) f (.ok b)) : a = b := by
  obtain ⟨memo, sound, first⟩ := first
  obtain ⟨memo', sound', second⟩ := second
  obtain ⟨later, right, within, within'⟩ := (h.keeps memo sound).joined (h.keeps memo' sound')
  have one := (h.ok memo a sound first later right within).1
  have two := (h.ok memo' b sound' second later right within').1
  exact Except.ok.inj (one.symm.trans two)

theorem of_computes {f : Action SynthMemo α} {outcome : Except Error α}
    (computes : Computes (Sound reg) f outcome)
    (answers : ∀ known, Keeps (Answers known) f) : Replays reg f where
  keeps := computes.steady.keeps
  within memo _ := .of_eq (answers memo.synthesizable memo rfl)
  ok memo _ sound first later sound' _ :=
    ⟨((computes later sound').1.trans (computes memo sound).1.symm).trans first,
      answers later.synthesizable later rfl⟩
  error memo _ sound first later sound' _ :=
    ⟨((computes later sound').1.trans (computes memo sound).1.symm).trans first,
      answers later.synthesizable later rfl⟩

theorem closed (reg : Registry) : Closed fun f => Replays reg f where
  pure a := of_computes (.pure a) fun _ => (Keeps.closed _).pure a
  throw e := of_computes (.throw e) fun _ => (Keeps.closed _).throw e
  bind {_ _ f k} hf hk := {
    keeps := (Keeps.closed _).bind hf.keeps fun a => (hk a).keeps
    within := fun memo sound => by
      rw [bind_apply]
      have within := hf.within memo sound
      cases (f memo).1 with
      | ok a => exact within.trans ((hk a).within _ (hf.keeps memo sound))
      | error e => exact within
    ok := fun memo b sound done later sound' kept => by
      rw [bind_apply] at done kept
      have after := hf.keeps memo sound
      cases first : (f memo).1 with
      | error e =>
        rw [first] at done
        cases done
      | ok a =>
        rw [first] at done kept
        have held := ((hk a).within _ after).trans kept
        obtain ⟨again, same⟩ := hf.ok memo a sound first later sound' held
        obtain ⟨next, last⟩ := (hk a).ok _ b after done _ (hf.keeps later sound')
          (kept.trans (.of_eq same))
        rw [bind_apply, again]
        exact ⟨next, last.trans same⟩
    error := fun memo e sound failed later sound' kept => by
      rw [bind_apply] at failed kept
      have after := hf.keeps memo sound
      cases first : (f memo).1 with
      | error e' =>
        rw [first] at failed kept
        cases failed
        obtain ⟨again, same⟩ := hf.error memo e sound first later sound' kept
        rw [bind_apply, again]
        exact ⟨rfl, same⟩
      | ok a =>
        rw [first] at failed kept
        have held := ((hk a).within _ after).trans (.of_eq kept)
        obtain ⟨again, same⟩ := hf.ok memo a sound first later sound' held
        obtain ⟨next, last⟩ := (hk a).error _ e after failed _ (hf.keeps later sound')
          (same.trans kept)
        rw [bind_apply, again]
        exact ⟨next, last.trans same⟩ }

end Replays

namespace Registry

variable {reg : Registry} {memo : SynthMemo} {type : String}

/-- The types on the way to an alias, the first one among them, have one within. -/
theorem walkFrom_way (sound : Sound reg memo) {way : List String}
    (h : reg.walkFrom memo.synthesizable type = .found way) :
    type ∈ way ∧ ∀ other ∈ way, reg.AliasWithin other := by
  have means := (aliasPath_means type memo sound).2
  rw [(aliasPath_computes memo.synthesizable type memo ⟨sound, rfl⟩).1, h] at means
  exact means

/-- An answer is kept. -/
theorem isSynthesizable_kept (sound : Sound reg memo) {answer : Bool}
    (h : (reg.isSynthesizable type memo).1 = .ok answer) :
    (reg.isSynthesizable type memo).2.synthesizable.find? type = some answer := by
  cases asked : memo.synthesizable.find? type with
  | some answer' =>
    rw [isSynthesizable_asked asked] at h ⊢
    cases h
    exact asked
  | none =>
    obtain ⟨result, after⟩ := isSynthesizable_unasked sound asked
    rw [result] at h
    rw [after]
    cases ended : reg.walkFrom memo.synthesizable type with
    | failed e =>
      rw [ended] at h
      cases h
    | found way =>
      rw [ended] at h
      cases h
      rw [find?_settle_found, if_pos (walkFrom_way sound ended).1]
    | through seen =>
      rw [ended] at h
      cases h
      rw [WalkEnd.settle, Table.find?_set, if_pos rfl]

theorem isSynthesizable_within (type : String) (sound : Sound reg memo) :
    memo.Within (reg.isSynthesizable type memo).2 := by
  intro inner answer kept
  cases asked : memo.synthesizable.find? type with
  | some answer' =>
    rw [isSynthesizable_asked asked]
    exact kept
  | none =>
    rw [(isSynthesizable_unasked sound asked).2]
    cases ended : reg.walkFrom memo.synthesizable type with
    | failed e => exact kept
    | found way =>
      rw [find?_settle_found]
      split
      · rename_i mem
        cases answer with
        | true => rfl
        | false =>
          exact absurd ((walkFrom_way sound ended).2 inner mem)
            (sound.plain inner kept).not_aliasWithin
      · exact kept
    | through seen =>
      rw [WalkEnd.settle, Table.find?_set]
      split
      · rename_i same
        rw [← same, asked] at kept
        cases kept
      · exact kept

/-- A failure leaves the answers as they are, and without other answers it comes again. -/
theorem isSynthesizable_failed (sound : Sound reg memo) {e : Error}
    (h : (reg.isSynthesizable type memo).1 = .error e) :
    Answers memo.synthesizable (reg.isSynthesizable type memo).2 ∧ ∀ later, Sound reg later →
      Answers memo.synthesizable later → (reg.isSynthesizable type later).1 = .error e := by
  cases asked : memo.synthesizable.find? type with
  | some answer =>
    rw [isSynthesizable_asked asked] at h
    cases h
  | none =>
    obtain ⟨result, after⟩ := isSynthesizable_unasked sound asked
    rw [result] at h
    cases ended : reg.walkFrom memo.synthesizable type with
    | failed e' =>
      rw [ended] at after
      refine ⟨after, fun later sound' (kept : later.synthesizable = _) => ?_⟩
      rw [(isSynthesizable_unasked sound' (kept ▸ asked)).1, kept, h]
    | found way =>
      rw [ended] at h
      cases h
    | through seen =>
      rw [ended] at h
      cases h

theorem isSynthesizable_replays (type : String) : Replays reg (reg.isSynthesizable type) where
  keeps := reg.isSynthesizable_keeps type
  within _ sound := isSynthesizable_within type sound
  ok memo answer sound first later _ kept := by
    rw [isSynthesizable_asked (kept type answer (isSynthesizable_kept sound first))]
    exact ⟨rfl, rfl⟩
  error memo e sound failed later sound' kept := by
    obtain ⟨after, again⟩ := isSynthesizable_failed sound failed
    have failed' := again later sound' (Eq.trans kept after)
    exact ⟨failed', (isSynthesizable_failed sound' failed').1⟩

/-- Whatever is asked runs once more as before. -/
theorem asked_replays (reg : Registry) : reg.Asked fun f => Replays reg f where
  toClosed := Replays.closed reg
  synthesizable := reg.isSynthesizable_replays
  aliasMap type := .of_computes (reg.recallAliasMap_computes type)
    fun known => (recalls_answers known).aliasMap reg type
  overrideName type attr target := .of_computes (reg.recallOverrideName_computes type attr target)
    fun known => (recalls_answers known).overrideName reg type attr target

/-- The outcomes of two computations are related from one memo, where one is run right after the other
and, if all declarations are sound, from any two memos. -/
structure EndsWith (reg : Registry) {α : Type} (related : Except Error α → Except Error α → Prop)
    (f g : Action SynthMemo α) : Prop where
  once : ∀ memo, Sound reg memo → related (f memo).1 (g memo).1
  next : ∀ memo, Sound reg memo → related (f memo).1 (g (f memo).2).1
  previous : ∀ memo, Sound reg memo → related (f (g memo).2).1 (g memo).1
  ever : reg.AliasesValid → reg.NestedKnown → ∀ memo memo', Sound reg memo → Sound reg memo' →
    related (f memo).1 (g memo').1

theorem EndsWith.of_asked {α : Type} {related : Except Error α → Except Error α → Prop}
    {f g : Action SynthMemo α} (replays : Replays reg f) (replays' : Replays reg g)
    (h : ∀ R : SynthMemo → SynthMemo → Prop, (reg.Asked fun f => Alike R f f) →
      (∀ memo memo', R memo memo' → Sound reg memo ∧ Sound reg memo') →
      ∀ memo memo', R memo memo' → related (f memo).1 (g memo').1 ∧ R (f memo).2 (g memo').2) :
    reg.EndsWith related f g := by
  have once (memo : SynthMemo) (sound : Sound reg memo) :=
    h _ reg.asked_once (fun memo memo' same => ⟨same.2, same.1 ▸ same.2⟩) memo memo ⟨rfl, sound⟩
  constructor
  case once => exact fun memo sound => (once memo sound).1
  case next =>
    intro memo sound
    rw [(once memo sound).2.1, replays'.again sound]
    exact (once memo sound).1
  case previous =>
    intro memo sound
    rw [← (once memo sound).2.1, replays.again sound]
    exact (once memo sound).1
  case ever =>
    exact fun valid known memo memo' sound sound' =>
      (h _ (asked_alike valid known) (fun _ _ both => both) memo memo' ⟨sound, sound'⟩).1

end Registry
end Annotations
