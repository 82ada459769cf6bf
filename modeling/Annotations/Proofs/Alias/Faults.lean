import Annotations.Proofs.Action.Endings
import Annotations.Synthesizable

/-!
Questions about aliases fail over a declaration, never over the values of an annotation: none of
them ends with a conflict, and none comes by a default that leads back to itself. They are put
together in one way, which any property that goes over to what is recalled follows.
-/
namespace Annotations

open Annotations.Action SynthMemo

/-- Two aliases were given different values. -/
def Error.isConflict : Error → Bool
  | .attributeConflict .. => true
  | _ => false

/-- Errors other than conflicts. -/
def Error.IsFault (e : Error) : Prop := e.isConflict = false

theorem Error.IsFault.false {e : Error} (h : e.IsFault) (conflict : e.isConflict = true) : False :=
  Bool.false_ne_true (h.symm.trans conflict)

/-- A declaration is at fault, or one that is not there, whatever values are given. -/
def Error.isDeclared : Error → Bool
  | .attributeConflict .. | .endlessDefault => false
  | _ => true

def Error.IsDeclared (e : Error) : Prop := e.isDeclared = true

theorem Error.IsDeclared.fault {e : Error} (h : e.IsDeclared) : e.IsFault := by
  cases e <;> first | rfl | cases h

theorem Error.IsDeclared.false {e : Error} (h : e.IsDeclared) (conflict : e.isConflict = true) :
    False :=
  h.fault.false conflict

theorem Error.IsDeclared.ends {e : Error} (h : e.IsDeclared) : e ≠ .endlessDefault := by
  rintro rfl
  cases h

/-- A declaration is at fault, and a search that comes by it ends. -/
structure Error.IsMisdeclared (e : Error) : Prop where
  declared : e.IsDeclared
  ends : e.isConfiguration = true

theorem Error.category_of_conflict {e : Error} (conflict : e.isConflict = true) :
    e.category = .configuration := by
  cases e <;> first | rfl | cases conflict

/-- A property of computations that sequencing keeps, that faults of declarations have, and that goes
over to what is recalled from any table but that of the answers on alias handling. -/
structure SynthMemo.Recalls (P : ∀ {α : Type}, Action SynthMemo α → Prop) : Prop where
  pure : ∀ {α : Type} (a : α), P (Pure.pure a : Action SynthMemo α)
  lift : ∀ {α : Type} {outcome : Except Error α}, (∀ e, outcome = .error e → e.IsDeclared) →
    P (liftM outcome : Action SynthMemo α)
  bind : ∀ {α β : Type} {f : Action SynthMemo α} {k : α → Action SynthMemo β}, P f →
    (∀ a, P (k a)) → P (f >>= k)
  remember : ∀ {κ ν : Type} [DecidableEq κ] {part : Part κ ν} {key : κ} {find : Action SynthMemo ν},
    (∀ memo table, (part.write memo table).synthesizable = memo.synthesizable) → P find →
    P (SynthMemo.remember part key find)

namespace Registry

variable {reg : Registry} {type : String} {link : AliasLink} {e : Error}

theorem type_fault {name : String} (h : reg.type name = .error e) : e.IsDeclared := by
  unfold Registry.type at h
  split at h
  · cases h
  · cases h
    rfl

theorem aimedAttr_fault (h : reg.aimedAttr link = .error e) : e.IsMisdeclared := by
  unfold aimedAttr at h
  split at h
  · cases h
    exact ⟨rfl, rfl⟩
  · unfold aliasTarget at h
    split at h
    · cases h
    · cases h
      exact ⟨rfl, rfl⟩

theorem checkDefaults_fault {attr target : Attr} {targetType : String}
    (h : checkDefaults type attr targetType target = .error e) : e.IsMisdeclared := by
  unfold checkDefaults at h
  split at h
  · split at h
    · cases h
    · cases h
      exact ⟨rfl, rfl⟩
  · cases h
    exact ⟨rfl, rfl⟩

theorem checkEnds_fault {attr target : Attr} (h : checkEnds attr link target = .error e) :
    e.IsMisdeclared := by
  unfold checkEnds at h
  dsimp only at h
  split at h
  · cases h
    exact ⟨rfl, rfl⟩
  · split at h
    · cases h
      exact ⟨rfl, rfl⟩
    · split at h
      · rcases Outcome.bind_error h with failed | ⟨_, _, h⟩
        · exact checkDefaults_fault failed
        · cases h
      · cases h

end Registry

namespace SynthMemo.Recalls

open Registry

variable {P : ∀ {α : Type}, Action SynthMemo α → Prop} (h : Recalls P) (reg : Registry)
  (type : String)

include h

theorem throw {α : Type} {e : Error} (fault : e.IsDeclared) : P (throw e : Action SynthMemo α) :=
  @lift _ h α (.error e) fun _ same => by
    cases same
    exact fault

theorem map {α β : Type} (g : α → β) {f : Action SynthMemo α} (hf : P f) : P (g <$> f) := by
  rw [map_eq_pure_bind]
  exact h.bind hf fun a => h.pure (g a)

theorem typed : P (liftM (reg.type type) : Action SynthMemo AnnotType) :=
  h.lift fun _ => type_fault

theorem check (attr : Attr) (decl : AliasFor) : P (reg.recallCheck type attr decl) := by
  refine h.bind (h.lift fun _ failed => (aimedAttr_fault failed).declared) fun target => ?_
  have ends : P (liftM (checkEnds attr (declaredLink type attr decl) target) :
      Action SynthMemo AliasLink) := h.lift fun _ failed => (checkEnds_fault failed).declared
  split
  · refine h.bind (h.remember (fun _ _ => rfl) (h.pure _)) fun present => ?_
    split
    · exact h.bind (h.throw rfl) fun _ => ends
    · exact ends
  · exact ends

theorem link (attr : String) : P (reg.recallLink type attr) := by
  refine h.remember (fun _ _ => rfl) (h.bind (h.typed reg type) fun decl => ?_)
  split
  · exact h.throw rfl
  · split
    · exact h.pure _
    · exact h.map _ (h.check reg type _ _)

theorem chainFrom (bound : Nat) (seen : List (String × String)) (link : AliasLink) :
    P (reg.recallChainFrom bound seen link) := by
  induction bound generalizing seen link with
  | zero => exact h.pure _
  | succ bound ih =>
    refine h.bind ?_ fun next => ?_
    · unfold recallOverride
      split
      · exact h.pure _
      · exact h.link reg _ _
    · split
      · exact h.pure _
      · split
        · exact h.pure _
        · exact h.bind (ih _ _) fun chain => h.pure _

theorem implicit (attr : Attr) (link : AliasLink) (others : List Attr) :
    P (reg.recallImplicit type attr link others) := by
  induction others with
  | nil => exact h.pure _
  | cons other rest ih =>
    unfold recallImplicit
    split
    · exact ih
    · refine h.bind (h.link reg _ _) fun found => ?_
      cases found with
      | none => exact ih
      | some otherLink =>
        refine h.bind (h.chainFrom reg _ _ _) fun chain => ?_
        refine h.bind (h.chainFrom reg _ _ _) fun otherChain => ?_
        split
        · refine h.bind (h.lift fun _ failed => (checkDefaults_fault failed).declared) fun _ => ?_
          exact h.bind ih fun names => h.pure _
        · exact ih

theorem aliasNames (attr : String) : P (reg.recallAliasNames type attr) := by
  refine h.bind (h.link reg _ _) fun found => ?_
  cases found with
  | none => exact h.pure _
  | some link =>
    simp only
    split
    · exact h.pure _
    · refine h.bind (h.typed reg type) fun decl => ?_
      split
      · exact h.pure _
      · exact h.implicit reg _ _ _ _

theorem overrideName (attr target : String) : P (reg.recallOverrideName type attr target) := by
  refine h.bind (h.link reg _ _) fun found => ?_
  cases found with
  | none => exact h.pure _
  | some link => exact h.bind (h.chainFrom reg _ _ _) fun chain => h.pure _

theorem aliasMap : P (reg.recallAliasMap type) := by
  refine h.remember (fun _ _ => rfl) (h.bind (h.typed reg type) fun decl => ?_)
  have all (attrs : List Attr) (found : Entries (List String)) :
      P (reg.recallAliasMapOf type found attrs) := by
    induction attrs generalizing found with
    | nil => exact h.pure _
    | cons attr rest ih => exact h.bind (h.aliasNames reg type attr.name) fun aliases => ih _
  exact all decl.attrs []

end SynthMemo.Recalls

/-- What is recalled fails over a declaration. -/
theorem SynthMemo.recalls_faults : Recalls (Raises Error.IsDeclared) where
  pure := .pure
  lift := .lift
  bind := .bind
  remember _ found := by
    refine .bind .get fun memo => ?_
    split
    · exact .pure _
    · exact .bind found fun result => .bind (.modify _) fun _ => .pure result

namespace Registry

variable {reg : Registry}

theorem findAlias_faults (seen : List String) (todo : List AttrVisit) :
    Raises Error.IsDeclared (reg.findAlias seen todo) := by
  match todo with
  | [] =>
    rw [findAlias]
    exact .pure _
  | visit :: rest =>
    rw [findAlias]
    refine .bind (recalls_faults.link reg _ _) fun link => ?_
    split
    · exact .pure _
    · split
      · exact findAlias_faults seen rest
      · rename_i inner _
        refine .bind .get fun memo => ?_
        split
        · exact .pure _
        · exact findAlias_faults seen rest
        · split
          · exact findAlias_faults seen rest
          · rename_i again
            split
            · rename_i unknown
              exact .throw (type_fault unknown)
            · rename_i decl known
              have fewer : reg.attrGraph.ahead (inner :: seen) + decl.attrs.length ≤
                  reg.attrGraph.ahead seen := by
                rw [← attrGraph_next known]
                exact Graph.ahead_cons_add_le again reg.attrGraph
              exact findAlias_faults (inner :: seen) _
termination_by todo.length + reg.attrGraph.ahead seen
decreasing_by
  all_goals simp only [List.length_cons, List.length_append, List.length_map]
  all_goals omega

theorem isSynthesizable_faults (type : String) :
    Raises Error.IsDeclared (reg.isSynthesizable type) := by
  refine .bind .get fun memo => ?_
  split
  · exact .pure _
  · refine .bind (.bind (recalls_faults.typed reg type) fun decl => findAlias_faults _ _) fun path => ?_
    cases path with
    | none => exact .bind (.modify _) fun _ => .pure _
    | some path => exact .bind (.modify _) fun _ => .pure _

end Registry
end Annotations
