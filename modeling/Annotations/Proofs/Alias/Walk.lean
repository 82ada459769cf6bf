import Annotations.Proofs.Alias.Answers
import Annotations.Proofs.Alias.Synthesizable

/-!
The walk that looks for an alias, as a function of the answers that are kept when it starts: no
question it asks changes them. A walk over two lists is one over the first and, from the types it came
to, one over the second; so walks are followed attribute by attribute.
-/
namespace Annotations

open Annotations.Action SynthMemo

/-- How a walk over attributes ends: with a fault, at an alias with the types on the way to it, or
through, with all types it has come to. -/
inductive WalkEnd where
  | failed (error : Error)
  | found (path : List String)
  | through (seen : List String)

namespace WalkEnd

/-- What a walk answers. -/
def answer : WalkEnd → Except Error (Option (List String))
  | .failed e => .error e
  | .found path => .ok (some path)
  | .through _ => .ok none

/-- Goes on from where a walk came through. -/
def andThen : WalkEnd → (List String → WalkEnd) → WalkEnd
  | .through seen, next => next seen
  | ended, _ => ended

end WalkEnd

namespace Registry

/-- What an attribute makes of a walk: it ends it with a fault or at an alias, lets it pass, or lets it
enter the attribute's type. -/
inductive Turn where
  | fault (error : Error)
  | reach
  | pass
  | enter (type : String) (decl : AnnotType)

/-- The turn of a walk at an attribute, from the answers kept and the types seen. -/
def turn (reg : Registry) (known : Table String Bool) (seen : List String) (visit : AttrVisit) : Turn :=
  match reg.aliasLink visit.type visit.attr.name with
  | .error e => .fault e
  | .ok (some _) => .reach
  | .ok none =>
    match visit.attr.type.nested? with
    | none => .pass
    | some inner =>
      match known.find? inner with
      | some true => .reach
      | some false => .pass
      | none =>
        if seen.contains inner then .pass
        else
          match reg.type inner with
          | .error e => .fault e
          | .ok decl => .enter inner decl

variable {reg : Registry} {known : Table String Bool} {seen seen' : List String}
  {visit : AttrVisit} {todo rest : List AttrVisit} {inner : String} {decl : AnnotType} {e : Error}

theorem turn_enter (h : reg.turn known seen visit = .enter inner decl) :
    reg.aliasLink visit.type visit.attr.name = .ok none ∧ visit.attr.type.nested? = some inner ∧
      known.find? inner = none ∧ inner ∉ seen ∧ reg.type inner = .ok decl := by
  unfold turn at h
  split at h
  · cases h
  · cases h
  · rename_i own
    split at h
    · cases h
    · rename_i step
      split at h
      · cases h
      · cases h
      · rename_i unanswered
        split at h
        · cases h
        · rename_i fresh
          split at h
          · cases h
          · rename_i found
            cases h
            exact ⟨own, step, unanswered, by simpa using fresh, found⟩

section

variable (own : reg.aliasLink visit.type visit.attr.name = .ok none)
  (step : visit.attr.type.nested? = some inner) (unanswered : known.find? inner = none)

include own step unanswered

theorem turn_seen (mem : inner ∈ seen) : reg.turn known seen visit = .pass := by
  simp only [turn, own, step, unanswered, List.contains_iff_mem.2 mem, if_true]

theorem turn_unknown (fresh : inner ∉ seen) (unknown : reg.type inner = .error e) :
    reg.turn known seen visit = .fault e := by
  have new : seen.contains inner = false := by simpa using fresh
  simp only [turn, own, step, unanswered, new, unknown, Bool.false_eq_true, if_false]

theorem turn_fresh (fresh : inner ∉ seen) (found : reg.type inner = .ok decl) :
    reg.turn known seen visit = .enter inner decl := by
  have new : seen.contains inner = false := by simpa using fresh
  simp only [turn, own, step, unanswered, new, found, Bool.false_eq_true, if_false]

end

/-- The attributes of a type, to be looked at on a way. -/
def visits (path : List String) (type : String) (attrs : List Attr) : List AttrVisit :=
  attrs.map (AttrVisit.mk path type)

theorem visits_cons (path : List String) (type : String) (attr : Attr) (attrs : List Attr) :
    visits path type (attr :: attrs) = ⟨path, type, attr⟩ :: visits path type attrs := rfl

theorem ahead_enter (fresh : inner ∉ seen) (found : reg.type inner = .ok decl)
    (path : List String) :
    (visits path inner decl.attrs).length + reg.attrGraph.ahead (inner :: seen) ≤
      reg.attrGraph.ahead seen := by
  have fewer := Graph.ahead_cons_add_le (by simpa using fresh) reg.attrGraph
  rw [attrGraph_next found] at fewer
  rw [visits, List.length_map]
  omega

/-- The walk for an alias from given answers. -/
def walk (reg : Registry) (known : Table String Bool) (seen : List String) (todo : List AttrVisit) :
    WalkEnd :=
  match todo with
  | [] => .through seen
  | visit :: rest =>
    match _turn : reg.turn known seen visit with
    | .fault e => .failed e
    | .reach => .found (visit.type :: visit.path)
    | .pass => reg.walk known seen rest
    | .enter inner decl =>
      reg.walk known (inner :: seen) (visits (visit.type :: visit.path) inner decl.attrs ++ rest)
termination_by todo.length + reg.attrGraph.ahead seen
decreasing_by
  all_goals simp only [List.length_cons, List.length_append]
  · omega
  · obtain ⟨_, _, _, fresh, found⟩ := turn_enter _turn
    have := ahead_enter fresh found (visit.type :: visit.path)
    omega

theorem walk_nil : reg.walk known seen [] = .through seen := by rw [walk]

theorem walk_fault (h : reg.turn known seen visit = .fault e) :
    reg.walk known seen (visit :: rest) = .failed e := by
  rw [walk]
  split <;> simp_all

theorem walk_reach (h : reg.turn known seen visit = .reach) :
    reg.walk known seen (visit :: rest) = .found (visit.type :: visit.path) := by
  rw [walk]
  split <;> simp_all

theorem walk_pass (h : reg.turn known seen visit = .pass) :
    reg.walk known seen (visit :: rest) = reg.walk known seen rest := by
  rw [walk]
  split <;> simp_all

theorem walk_into (h : reg.turn known seen visit = .enter inner decl) :
    reg.walk known seen (visit :: rest) = reg.walk known (inner :: seen)
      (visits (visit.type :: visit.path) inner decl.attrs ++ rest) := by
  rw [walk]
  split <;> simp_all

/-- A walk over two lists is one over the first and, from where that came through, over the second. -/
theorem walk_append (seen : List String) (todo rest : List AttrVisit) :
    reg.walk known seen (todo ++ rest) =
      (reg.walk known seen todo).andThen fun seen => reg.walk known seen rest := by
  match todo with
  | [] =>
    rw [walk_nil]
    rfl
  | visit :: todo =>
    rw [List.cons_append]
    cases turn : reg.turn known seen visit with
    | fault e =>
      rw [walk_fault turn, walk_fault turn]
      rfl
    | reach =>
      rw [walk_reach turn, walk_reach turn]
      rfl
    | pass =>
      rw [walk_pass turn, walk_pass turn]
      exact walk_append seen todo rest
    | enter inner decl =>
      rw [walk_into turn, walk_into turn, ← List.append_assoc]
      exact walk_append (inner :: seen) (visits _ inner decl.attrs ++ todo) rest
termination_by todo.length + reg.attrGraph.ahead seen
decreasing_by
  · simp only [List.length_cons]
    omega
  · obtain ⟨_, _, _, fresh, found⟩ := turn_enter turn
    have := ahead_enter fresh found (visit.type :: visit.path)
    simp only [List.length_cons, List.length_append]
    omega

theorem walk_enter (h : reg.turn known seen visit = .enter inner decl) :
    reg.walk known seen (visit :: rest) =
      (reg.walk known (inner :: seen)
        (visits (visit.type :: visit.path) inner decl.attrs)).andThen
          fun seen => reg.walk known seen rest := by
  rw [walk_into h, walk_append]

/-- What holds of walks holds of them attribute by attribute: of the walk over the attributes of a type
that is entered, and of the walk over the rest from whatever was seen by then. -/
theorem walk_induction (reg : Registry) {P : List String → List AttrVisit → Prop}
    (nil : ∀ seen, P seen [])
    (cons : ∀ seen visit rest,
      (∀ inner decl path, inner ∉ seen → reg.type inner = .ok decl →
        P (inner :: seen) (visits path inner decl.attrs)) →
      (∀ seen', seen ⊆ seen' → P seen' rest) → P seen (visit :: rest))
    (seen : List String) (todo : List AttrVisit) : P seen todo := by
  match todo with
  | [] => exact nil seen
  | visit :: rest =>
    refine cons seen visit rest (fun inner decl path fresh found => ?inside) fun seen' sub => ?rest
    case inside => exact walk_induction reg nil cons (inner :: seen) _
    case rest => exact walk_induction reg nil cons seen' rest
termination_by todo.length + reg.attrGraph.ahead seen
decreasing_by
  · have := ahead_enter fresh found path
    simp only [List.length_cons]
    omega
  · have := Graph.ahead_le sub reg.attrGraph
    simp only [List.length_cons]
    omega

/-- The same for walks over the attributes of one type only. -/
theorem attrs_induction (reg : Registry)
    {P : List String → List String → String → AnnotType → List Attr → Prop}
    (nil : ∀ seen path type decl, P seen path type decl [])
    (cons : ∀ seen path type decl attr attrs, reg.type type = .ok decl → attr ∈ decl.attrs →
      (∀ inner innerDecl, inner ∉ seen → reg.type inner = .ok innerDecl →
        P (inner :: seen) (type :: path) inner innerDecl innerDecl.attrs) →
      (∀ seen', seen ⊆ seen' → P seen' path type decl attrs) →
      P seen path type decl (attr :: attrs))
    (seen path : List String) {type : String} {decl : AnnotType} {attrs : List Attr}
    (found : reg.type type = .ok decl) (sub : attrs ⊆ decl.attrs) : P seen path type decl attrs := by
  suffices all : ∀ seen todo, ∀ path type decl attrs, todo = visits path type attrs →
      reg.type type = .ok decl → attrs ⊆ decl.attrs → P seen path type decl attrs from
    all seen _ path type decl attrs rfl found sub
  refine reg.walk_induction (fun seen path type decl attrs same _ _ => ?nil)
    (fun seen visit rest inside after path type decl attrs same found sub => ?cons)
  case nil =>
    cases attrs with
    | nil => exact nil seen path type decl
    | cons attr attrs => cases same
  case cons =>
    cases attrs with
    | nil => cases same
    | cons attr attrs =>
      obtain ⟨rfl, rfl⟩ := List.cons.inj same
      refine cons seen path type decl attr attrs found (sub (.head attrs))
        (fun inner innerDecl fresh innerFound => ?_) fun seen' new => ?_
      · exact inside inner innerDecl (type :: path) fresh innerFound _ inner innerDecl _ rfl
          innerFound (List.Subset.refl _)
      · exact after seen' new path type decl attrs rfl found fun other mem => sub (.tail attr mem)

theorem walk_subset (h : reg.walk known seen todo = .through seen') : seen ⊆ seen' := by
  revert seen'
  refine reg.walk_induction
    (P := fun seen todo => ∀ {seen'}, reg.walk known seen todo = .through seen' → seen ⊆ seen')
    (fun seen seen' h => ?_) (fun seen visit rest inside after seen' h => ?_) seen todo
  · rw [walk_nil] at h
    cases h
    exact List.Subset.refl _
  · cases turn : reg.turn known seen visit with
    | fault e =>
      rw [walk_fault turn] at h
      cases h
    | reach =>
      rw [walk_reach turn] at h
      cases h
    | pass =>
      rw [walk_pass turn] at h
      exact after seen (List.Subset.refl _) h
    | enter inner decl =>
      obtain ⟨_, _, _, fresh, found⟩ := turn_enter turn
      rw [walk_enter turn] at h
      cases entered : reg.walk known (inner :: seen)
        (visits (visit.type :: visit.path) inner decl.attrs) with
      | failed e =>
        rw [entered] at h
        cases h
      | found path =>
        rw [entered] at h
        cases h
      | through middle =>
        rw [entered] at h
        have first : seen ⊆ middle := fun type mem =>
          inside inner decl _ fresh found entered (.tail inner mem)
        exact fun type mem => after middle first h (first mem)

/-- From sound answers the walk that asks questions ends as the walk on answers does. -/
theorem findAlias_computes (seen : List String) (todo : List AttrVisit) :
    Computes (fun memo => Sound reg memo ∧ Answers known memo) (reg.findAlias seen todo)
      (reg.walk known seen todo).answer := by
  match todo with
  | [] =>
    rw [findAlias, walk_nil]
    exact .pure _
  | visit :: rest =>
    rintro memo ⟨sound, answers⟩
    have kept : Keeps (Answers known) (reg.recallLink visit.type visit.attr.name) :=
      (recalls_answers known).link reg visit.type visit.attr.name
    obtain ⟨result, after⟩ :=
      (reg.recallLink_computes visit.type visit.attr.name).keeping kept memo ⟨sound, answers⟩
    rw [findAlias, bind_apply, result]
    generalize (reg.recallLink visit.type visit.attr.name memo).2 = memo' at after
    cases own : reg.aliasLink visit.type visit.attr.name with
    | error e =>
      rw [walk_fault (e := e) (by simp only [turn, own])]
      exact ⟨rfl, after⟩
    | ok found =>
      cases found with
      | some link =>
        rw [walk_reach (by simp only [turn, own])]
        exact ⟨rfl, after⟩
      | none =>
        simp only [Option.isSome_none, Bool.false_eq_true, if_false]
        cases step : visit.attr.type.nested? with
        | none =>
          rw [walk_pass (by simp only [turn, own, step])]
          exact findAlias_computes seen rest memo' after
        | some inner =>
          simp only [bind_apply, get_apply]
          rw [show memo'.synthesizable = known from after.2]
          cases answer : known.find? inner with
          | some answer' =>
            cases answer' with
            | true =>
              rw [walk_reach (by simp only [turn, own, step, answer])]
              exact ⟨rfl, after⟩
            | false =>
              rw [walk_pass (by simp only [turn, own, step, answer])]
              exact findAlias_computes seen rest memo' after
          | none =>
            by_cases again : seen.contains inner
            · rw [walk_pass (turn_seen own step answer (by simpa using again))]
              simp only [again, dif_pos]
              exact findAlias_computes seen rest memo' after
            · have fresh : inner ∉ seen := by simpa using again
              simp only [again, Bool.false_eq_true, dif_neg, not_false_eq_true]
              rcases found : reg.type inner with e | decl
              · rw [walk_fault (turn_unknown own step answer fresh found)]
                exact ⟨rfl, after⟩
              · rw [walk_into (turn_fresh own step answer fresh found)]
                exact findAlias_computes (inner :: seen) _ memo' after
termination_by todo.length + reg.attrGraph.ahead seen
decreasing_by
  all_goals simp only [List.length_cons, List.length_append, List.length_map]
  all_goals try omega
  have := ahead_enter (by simpa using again) found []
  rw [visits, List.length_map] at this
  omega

end Registry
end Annotations
