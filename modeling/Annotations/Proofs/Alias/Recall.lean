import Annotations.Proofs.Action.Closed
import Annotations.Synthesizable
import Mathlib.Logic.Relation

/-!
Recalled answers about aliases are the ones that would be worked out anew. A memo is sound if every
answer in it is the registry's own; from sound memos each question has one outcome, and asking it
leaves the memo sound, also where it fails.
-/
namespace Annotations

namespace Registry

/-- Some attribute of the first type holds annotations of the second. -/
def Nests (reg : Registry) (outer inner : String) : Prop :=
  ∃ decl attr, reg.type outer = .ok decl ∧ attr ∈ decl.attrs ∧ attr.type.nested? = some inner

/-- The type or one nested in it declares an alias. -/
def AliasWithin (reg : Registry) (type : String) : Prop :=
  ∃ inner decl attr link, Relation.ReflTransGen reg.Nests type inner ∧ reg.type inner = .ok decl ∧
    attr ∈ decl.attrs ∧ reg.aliasLink inner attr.name = .ok (some link)

/-- The type and all that are nested in it are registered and declare no alias. -/
def PlainWithin (reg : Registry) (type : String) : Prop :=
  ∀ inner, Relation.ReflTransGen reg.Nests type inner →
    ∃ decl, reg.type inner = .ok decl ∧
      ∀ attr ∈ decl.attrs, reg.aliasLink inner attr.name = .ok none

theorem PlainWithin.not_aliasWithin {reg : Registry} {type : String} (h : reg.PlainWithin type) :
    ¬ reg.AliasWithin type := by
  rintro ⟨inner, decl, attr, link, way, known, mem, found⟩
  obtain ⟨decl', known', plain⟩ := h inner way
  rw [known] at known'
  cases known'
  rw [plain attr mem] at found
  cases found

theorem AliasWithin.outer {reg : Registry} {outer inner : String} (step : reg.Nests outer inner)
    (h : reg.AliasWithin inner) : reg.AliasWithin outer := by
  obtain ⟨deep, decl, attr, link, way, rest⟩ := h
  exact ⟨deep, decl, attr, link, .head step way, rest⟩

end Registry

/-- Every kept answer is the registry's own. -/
structure SynthMemo.Sound (reg : Registry) (memo : SynthMemo) : Prop where
  links : ∀ key link, memo.links.find? key = some link → reg.aliasLink key.1 key.2 = .ok link
  groups : ∀ type groups, memo.groups.find? type = some groups → reg.aliasMap type = .ok groups
  metaPresent : ∀ key answer, memo.metaPresent.find? key = some answer →
    reg.isMetaPresent key.1 key.2 = answer
  aliased : ∀ type, memo.synthesizable.find? type = some true → reg.AliasWithin type
  plain : ∀ type, memo.synthesizable.find? type = some false → reg.PlainWithin type

namespace SynthMemo

variable {reg : Registry}

theorem sound_empty : Sound reg {} := by
  constructor <;> simp

theorem Sound.markAliased {memo : SynthMemo} (h : Sound reg memo) {type : String}
    (found : reg.AliasWithin type) : Sound reg (memo.markSynthesizable type true) where
  links := h.links
  groups := h.groups
  metaPresent := h.metaPresent
  aliased other := by
    simp only [markSynthesizable, Table.find?_set]
    split
    · rename_i same
      exact fun _ => same ▸ found
    · exact h.aliased other
  plain other := by
    simp only [markSynthesizable, Table.find?_set]
    split
    · simp
    · exact h.plain other

theorem Sound.markPlain {memo : SynthMemo} (h : Sound reg memo) {type : String}
    (found : reg.PlainWithin type) : Sound reg (memo.markSynthesizable type false) where
  links := h.links
  groups := h.groups
  metaPresent := h.metaPresent
  aliased other := by
    simp only [markSynthesizable, Table.find?_set]
    split
    · simp
    · exact h.aliased other
  plain other := by
    simp only [markSynthesizable, Table.find?_set]
    split
    · rename_i same
      exact fun _ => same ▸ found
    · exact h.plain other

/-- Recalling computes what finding anew does, if the kept answers of that part are right. -/
theorem remember_computes {κ ν : Type} [DecidableEq κ] {part : Part κ ν} {key : κ}
    {find : Action SynthMemo ν} {outcome : Except Error ν}
    (known : ∀ memo, Sound reg memo → ∀ v, (part.read memo).find? key = some v → outcome = .ok v)
    (kept : ∀ memo, Sound reg memo → ∀ v, outcome = .ok v →
      Sound reg (part.write memo ((part.read memo).set key v)))
    (found : Action.Computes (Sound reg) find outcome) :
    Action.Computes (Sound reg) (remember part key find) outcome := by
  intro memo sound
  simp only [remember, Action.bind_apply, Action.get_apply]
  cases hit : (part.read memo).find? key with
  | some v =>
    rw [known memo sound v hit]
    exact ⟨rfl, sound⟩
  | none =>
    obtain ⟨result, after⟩ := found memo sound
    simp only [Action.bind_apply, result]
    cases outcome with
    | ok v => exact ⟨rfl, kept _ after v rfl⟩
    | error e => exact ⟨rfl, after⟩

end SynthMemo

namespace Registry

open SynthMemo Annotations.Action

variable (reg : Registry)

theorem recallMetaPresent_computes (type target : String) :
    Computes (Sound reg) (reg.recallMetaPresent type target)
      (.ok (reg.isMetaPresent type target)) := by
  refine remember_computes ?_ ?_ (.pure _)
  · intro memo sound v hit
    rw [sound.metaPresent (type, target) v hit]
  · rintro memo sound v ⟨⟩
    exact { sound with metaPresent := Table.forall_find?_set sound.metaPresent rfl }

theorem recallCheck_computes (type : String) (attr : Attr) (decl : AliasFor) :
    Computes (Sound reg) (reg.recallCheck type attr decl) (reg.checkAlias type attr decl) := by
  refine .bind (.lift _) fun target _ => ?_
  cases pair : (declaredLink type attr decl).isPair with
  | true =>
    simp only [Bool.not_true, Bool.false_and, Bool.false_eq_true, if_false]
    exact .bind (.pure _) fun _ _ => .lift _
  | false =>
    simp only [Bool.not_false, Bool.true_and, if_true]
    intro memo sound
    obtain ⟨result, after⟩ := reg.recallMetaPresent_computes type
      (declaredLink type attr decl).targetType memo sound
    rw [bind_apply, result]
    cases reg.isMetaPresent type (declaredLink type attr decl).targetType with
    | true => exact Computes.lift (I := Sound reg) _ _ after
    | false => exact ⟨rfl, after⟩

theorem recallLink_computes (type attr : String) :
    Computes (Sound reg) (reg.recallLink type attr) (reg.aliasLink type attr) := by
  refine remember_computes ?_ ?_ ?_
  · intro memo sound v hit
    exact sound.links (type, attr) v hit
  · intro memo sound v right
    exact { sound with links := Table.forall_find?_set sound.links right }
  · refine .bind (.lift _) fun decl _ => ?_
    cases decl.attr? attr with
    | none => exact .throw _
    | some attr =>
      simp only
      cases attr.aliasFor with
      | none => exact .pure _
      | some aim => exact .map _ (reg.recallCheck_computes type attr aim)

theorem recallOverride_computes (link : AliasLink) :
    Computes (Sound reg) (reg.recallOverride link) (reg.overrideLink link) := by
  unfold recallOverride overrideLink
  split
  · exact .pure _
  · exact reg.recallLink_computes _ _

theorem overrideLink_mem {link next : AliasLink} (h : reg.overrideLink link = .ok (some next)) :
    next.source ∈ reg.attrKeys := by
  unfold overrideLink at h
  split at h
  · cases h
  · have found := aliasLink_source h
    rw [found.1]
    exact found.2

theorem recallChainFrom_computes (bound : Nat) (seen : List (String × String)) (link : AliasLink)
    (enough : reg.attrKeysAhead seen < bound) :
    Computes (Sound reg) (reg.recallChainFrom bound seen link)
      (reg.overrideChainFrom seen link) := by
  induction bound generalizing seen link with
  | zero => omega
  | succ bound ih =>
    intro memo sound
    obtain ⟨result, after⟩ := reg.recallOverride_computes link memo sound
    rw [recallChainFrom, bind_apply, result]
    cases behind : reg.overrideLink link with
    | error e =>
      rw [overrideChainFrom_error behind]
      exact ⟨rfl, after⟩
    | ok next =>
      cases next with
      | none =>
        rw [overrideChainFrom_last behind]
        exact ⟨rfl, after⟩
      | some next =>
        by_cases again : seen.contains next.source
        · rw [overrideChainFrom_again behind again]
          simp only [again, if_true]
          exact ⟨rfl, after⟩
        · rw [overrideChainFrom_fresh behind again]
          simp only [again, Bool.false_eq_true, if_false]
          have fewer := attrKeysAhead_lt (reg.overrideLink_mem behind) again
          have rest := ih (next.source :: seen) next (by omega)
          exact Computes.map (link :: ·) rest _ after

theorem recallChain_computes (link : AliasLink) :
    Computes (Sound reg) (reg.recallChain link) (reg.overrideChain link) := by
  refine reg.recallChainFrom_computes _ _ link (Nat.lt_succ_of_le ?_)
  exact List.length_filter_le _ _

theorem recallImplicit_computes (type : String) (attr : Attr) (link : AliasLink)
    (others : List Attr) :
    Computes (Sound reg) (reg.recallImplicit type attr link others)
      (reg.implicitAliases type attr link others) := by
  induction others with
  | nil => exact .pure _
  | cons other rest ih =>
    unfold recallImplicit implicitAliases
    split
    · exact ih
    · refine .bind (reg.recallLink_computes type other.name) fun found _ => ?_
      cases found with
      | none => exact ih
      | some otherLink =>
        refine .bind (reg.recallChain_computes link) fun chain _ => ?_
        refine .bind (reg.recallChain_computes otherLink) fun otherChain _ => ?_
        split
        · refine .bind (.lift _) fun _ _ => ?_
          exact .bind ih fun _ _ => .pure _
        · exact ih

theorem recallAliasNames_computes (type attr : String) :
    Computes (Sound reg) (reg.recallAliasNames type attr) (reg.aliasNames type attr) := by
  refine .bind (reg.recallLink_computes type attr) fun found _ => ?_
  cases found with
  | none => exact .pure _
  | some link =>
    simp only
    split
    · exact .pure _
    · refine .bind (.lift _) fun decl _ => ?_
      cases decl.attr? attr with
      | none => exact .pure _
      | some attr => exact reg.recallImplicit_computes type attr link decl.attrs

theorem recallOverrideName_computes (type attr target : String) :
    Computes (Sound reg) (reg.recallOverrideName type attr target)
      (reg.overrideName type attr target) := by
  refine .bind (reg.recallLink_computes type attr) fun found _ => ?_
  cases found with
  | none => exact .pure _
  | some link => exact .bind (reg.recallChain_computes link) fun chain _ => .pure _

theorem recallAliasMapOf_computes (type : String) (found : Entries (List String))
    (attrs : List Attr) :
    Computes (Sound reg) (reg.recallAliasMapOf type found attrs)
      (reg.aliasMapOf type found attrs) := by
  induction attrs generalizing found with
  | nil => exact .pure _
  | cons attr rest ih =>
    exact .bind (reg.recallAliasNames_computes type attr.name) fun aliases _ => ih _

theorem recallAliasMap_computes (type : String) :
    Computes (Sound reg) (reg.recallAliasMap type) (reg.aliasMap type) := by
  refine remember_computes ?_ ?_ ?_
  · intro memo sound v hit
    exact sound.groups type v hit
  · intro memo sound v right
    exact { sound with groups := Table.forall_find?_set sound.groups right }
  · exact .bind (.lift _) fun decl _ => reg.recallAliasMapOf_computes type [] decl.attrs

end Registry
end Annotations
