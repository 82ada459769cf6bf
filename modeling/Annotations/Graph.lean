import Annotations.Entries

/-!
Directed graphs over names and the order in which a depth-first walk first meets their nodes. A name
without an entry is a node without successors, so a walk also ends on names nobody declared.
-/
namespace Annotations

/-- The successors of each declared node. -/
abbrev Graph := Entries (List String)

namespace Graph

def next (graph : Graph) (node : String) : List String := (graph.get? node).getD []

/-- The successors still ahead of a walk that has seen some nodes. -/
def ahead (seen : List String) : Graph → Nat
  | [] => 0
  | (node, successors) :: rest =>
    (if seen.contains node then 0 else successors.length) + ahead seen rest

theorem ahead_le {seen seen' : List String} (sub : seen ⊆ seen') (graph : Graph) :
    ahead seen' graph ≤ ahead seen graph := by
  induction graph with
  | nil => simp [ahead]
  | cons entry rest ih =>
    obtain ⟨key, successors⟩ := entry
    simp only [ahead, List.contains_iff_mem]
    split
    · omega
    · rename_i fresh
      rw [if_neg fun before => fresh (sub before)]
      omega

theorem ahead_cons_add_le {seen : List String} {node : String} (fresh : ¬ seen.contains node)
    (graph : Graph) : ahead (node :: seen) graph + (graph.next node).length ≤ ahead seen graph := by
  induction graph with
  | nil => simp [ahead, next, Entries.get?]
  | cons entry rest ih =>
    obtain ⟨key, successors⟩ := entry
    by_cases h' : key = node
    · subst h'
      have := ahead_le (List.subset_cons_self key seen) rest
      simp_all [ahead, next, Entries.get?]
      omega
    · by_cases h : seen.contains key
      · simp_all [ahead, next, Entries.get?]
      · simp_all [ahead, next, Entries.get?]
        omega

/-- The nodes a depth-first walk meets, each once and in the order of first meeting. -/
def preorder (graph : Graph) (seen todo : List String) : List String :=
  match todo with
  | [] => []
  | node :: rest =>
    if seen.contains node then graph.preorder seen rest
    else node :: graph.preorder (node :: seen) (graph.next node ++ rest)
termination_by todo.length + graph.ahead seen
decreasing_by
  · simp
  · rename_i fresh
    have := ahead_cons_add_le fresh graph
    simp only [List.length_append, List.length_cons]
    omega

/-- A chain of one or more steps. -/
inductive Reaches (graph : Graph) : String → String → Prop
  | step {a b : String} : b ∈ graph.next a → Reaches graph a b
  | cons {a b c : String} : b ∈ graph.next a → Reaches graph b c → Reaches graph a c

end Graph
end Annotations
