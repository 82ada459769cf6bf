import Annotations.Graph
import Mathlib.Logic.Relation

/-!
What a depth-first walk meets is what can be reached: every node it meets lies behind one it started
from, and nothing lies behind a node it meets that it does not meet as well.
-/
namespace Annotations
namespace Graph

variable {graph : Graph} {a b c : String}

theorem Reaches.trans (h : Reaches graph a b) (h' : Reaches graph b c) : Reaches graph a c := by
  induction h with
  | step next => exact .cons next h'
  | cons next _ ih => exact .cons next (ih h')

/-- Chains are those of any relation that the successors stand in. -/
theorem reaches_iff_transGen {related : String → String → Prop}
    (same : ∀ a b, related a b ↔ b ∈ graph.next a) :
    Reaches graph a b ↔ Relation.TransGen related a b := by
  constructor
  · intro way
    induction way with
    | step next => exact .single ((same _ _).2 next)
    | cons next _ ih => exact .head ((same _ _).2 next) ih
  · intro way
    induction way using Relation.TransGen.head_induction_on with
    | single next => exact .step ((same _ _).1 next)
    | head next _ ih => exact .cons ((same _ _).1 next) ih

/-- A walk meets only what it starts from and what can be reached from there. -/
theorem reached_of_mem_preorder {seen todo : List String} {node : String}
    (h : node ∈ graph.preorder seen todo) :
    ∃ start ∈ todo, node = start ∨ Reaches graph start node := by
  induction seen, todo using Graph.preorder.induct graph with
  | case1 seen =>
    rw [preorder] at h
    cases h
  | case2 seen first rest before ih =>
    rw [preorder, if_pos before] at h
    obtain ⟨start, mem, reached⟩ := ih h
    exact ⟨start, .tail first mem, reached⟩
  | case3 seen first rest fresh ih =>
    rw [preorder, if_neg fresh] at h
    rcases List.mem_cons.1 h with rfl | h
    · exact ⟨node, .head rest, .inl rfl⟩
    · obtain ⟨start, mem, reached⟩ := ih h
      rcases List.mem_append.1 mem with next | mem
      · refine ⟨first, .head rest, .inr ?_⟩
        rcases reached with rfl | further
        · exact .step next
        · exact .cons next further
      · exact ⟨start, .tail first mem, reached⟩

/-- A walk that has all successors of what it has seen still ahead meets all it starts from, and all
successors of what it meets. -/
theorem preorder_closed {seen todo : List String}
    (ahead : ∀ node ∈ seen, ∀ next ∈ graph.next node, next ∈ seen ∨ next ∈ todo) :
    (∀ node ∈ todo, node ∈ seen ∨ node ∈ graph.preorder seen todo) ∧
      ∀ node, node ∈ seen ∨ node ∈ graph.preorder seen todo → ∀ next ∈ graph.next node,
        next ∈ seen ∨ next ∈ graph.preorder seen todo := by
  induction seen, todo using Graph.preorder.induct graph with
  | case1 seen =>
    rw [preorder]
    refine ⟨by simp, fun node mem next after => ?_⟩
    rcases mem with mem | mem
    · exact ahead node mem next after
    · cases mem
  | case2 seen first rest before ih =>
    rw [preorder, if_pos before]
    have before : first ∈ seen := by simpa using before
    obtain ⟨starts, closed⟩ := ih fun node mem next after => by
      rcases ahead node mem next after with seen | todo
      · exact .inl seen
      · rcases List.mem_cons.1 todo with rfl | todo
        · exact .inl before
        · exact .inr todo
    refine ⟨fun node mem => ?_, closed⟩
    rcases List.mem_cons.1 mem with rfl | mem
    · exact .inl before
    · exact starts node mem
  | case3 seen first rest fresh ih =>
    rw [preorder, if_neg fresh]
    obtain ⟨starts, closed⟩ := ih fun node mem next after => by
      rcases List.mem_cons.1 mem with rfl | mem
      · exact .inr (List.mem_append_left rest after)
      · rcases ahead node mem next after with seen | todo
        · exact .inl (.tail first seen)
        · rcases List.mem_cons.1 todo with rfl | todo
          · exact .inl (.head seen)
          · exact .inr (List.mem_append_right _ todo)
    -- the first node moves from what was seen before to what is met
    have move {node : String} {met : List String} :
        node ∈ seen ∨ node ∈ first :: met ↔ node ∈ first :: seen ∨ node ∈ met := by
      simp only [List.mem_cons]
      constructor
      · rintro (mem | same | mem)
        · exact .inl (.inr mem)
        · exact .inl (.inl same)
        · exact .inr mem
      · rintro ((same | mem) | mem)
        · exact .inr (.inl same)
        · exact .inl mem
        · exact .inr (.inr mem)
    refine ⟨fun node mem => ?_, fun node mem next after =>
      move.2 (closed node (move.1 mem) next after)⟩
    rcases List.mem_cons.1 mem with rfl | mem
    · exact .inr (.head _)
    · exact move.2 (starts node (List.mem_append_right _ mem))

theorem Reaches.mem_of_closed {nodes : List String}
    (closed : ∀ node ∈ nodes, ∀ next ∈ graph.next node, next ∈ nodes) (h : Reaches graph a b)
    (start : a ∈ nodes) : b ∈ nodes := by
  induction h with
  | step next => exact closed _ start _ next
  | cons next _ ih => exact ih (closed _ start _ next)

/-- A walk from a node meets that node and all that can be reached from it. -/
theorem mem_preorder_iff : b ∈ graph.preorder [] [a] ↔ b = a ∨ Reaches graph a b := by
  constructor
  · intro met
    obtain ⟨start, first, reached⟩ := reached_of_mem_preorder met
    cases List.mem_singleton.1 first
    exact reached
  · obtain ⟨starts, closed⟩ := @preorder_closed graph [] [a] (by simp)
    have met : a ∈ graph.preorder [] [a] := by simpa using starts a (.head [])
    rintro (rfl | way)
    · exact met
    · refine way.mem_of_closed (fun node mem next after => ?_) met
      simpa using closed node (.inr mem) next after

/-- The successors of what a walk from a node meets are the nodes that can be reached in some
steps. -/
theorem mem_next_preorder_iff :
    (∃ node ∈ graph.preorder [] [a], b ∈ graph.next node) ↔ Reaches graph a b := by
  simp only [mem_preorder_iff]
  constructor
  · rintro ⟨node, rfl | further, next⟩
    · exact .step next
    · exact further.trans (.step next)
  · intro way
    induction way with
    | step next => exact ⟨_, .inl rfl, next⟩
    | cons next _ ih =>
      obtain ⟨node, rfl | further, last⟩ := ih
      · exact ⟨node, .inr (.step next), last⟩
      · exact ⟨node, .inr (.cons next further), last⟩

end Graph
end Annotations
