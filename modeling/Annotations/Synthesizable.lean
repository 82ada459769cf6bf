import Annotations.Alias.Memo

/-!
Whether an annotation type needs alias handling: it or a type nested in it declares an alias. The
answers found so far are kept, those of the types on the way to an alias included, and cut a later
search short.
-/
namespace Annotations

namespace Registry

/-- From each annotation type to its attributes. -/
def attrGraph (reg : Registry) : Graph :=
  reg.types.map fun entry => (entry.1, entry.2.attrs.map (·.name))

theorem attrGraph_next {reg : Registry} {name : String} {decl : AnnotType}
    (h : reg.type name = .ok decl) : (reg.attrGraph.next name).length = decl.attrs.length := by
  unfold Registry.type at h
  unfold attrGraph Graph.next
  revert h
  generalize reg.types = types
  induction types with
  | nil => simp
  | cons entry rest ih =>
    obtain ⟨key, value⟩ := entry
    intro h
    by_cases hk : key = name
    · simp_all
    · simp_all

/-- An attribute still to be looked at, with its type and the types around that, inmost first. -/
structure AttrVisit where
  path : List String
  type : String
  attr : Attr

/-- The types on the way to the first alias that a depth-first walk over attributes meets. A known
answer stands for the type's own walk. -/
def findAlias (reg : Registry) (seen : List String) (todo : List AttrVisit) :
    Action SynthMemo (Option (List String)) :=
  match todo with
  | [] => return none
  | visit :: rest => do
    if (← reg.recallLink visit.type visit.attr.name).isSome then
      return some (visit.type :: visit.path)
    match visit.attr.type.nested? with
    | none => reg.findAlias seen rest
    | some nested =>
      match (← get).synthesizable.find? nested with
      | some true => return some (visit.type :: visit.path)
      | some false => reg.findAlias seen rest
      | none =>
        if _fresh : seen.contains nested then reg.findAlias seen rest
        else
          match _known : reg.type nested with
          | .error error => throw error
          | .ok decl =>
            reg.findAlias (nested :: seen)
              (decl.attrs.map (AttrVisit.mk (visit.type :: visit.path) nested) ++ rest)
termination_by todo.length + reg.attrGraph.ahead seen
decreasing_by
  all_goals simp only [List.length_cons, List.length_append, List.length_map]
  all_goals try omega
  have := Graph.ahead_cons_add_le _fresh reg.attrGraph
  rw [attrGraph_next _known] at this
  omega

/-- Starts the walk at a type. -/
def aliasPath (reg : Registry) (type : String) : Action SynthMemo (Option (List String)) := do
  let decl ← reg.type type
  reg.findAlias [type] (decl.attrs.map (AttrVisit.mk [] type))

/-- Whether a type needs alias handling. A found alias settles the types on the way to it, a walk
without one the type it started at, a failed walk nothing. -/
def isSynthesizable (reg : Registry) (type : String) : Action SynthMemo Bool := do
  match (← get).synthesizable.find? type with
  | some known => return known
  | none =>
    match ← reg.aliasPath type with
    | none =>
      modify (·.markSynthesizable type false)
      return false
    | some path =>
      modify fun memo => path.foldr (fun name found => found.markSynthesizable name true) memo
      return true

end Registry
end Annotations
