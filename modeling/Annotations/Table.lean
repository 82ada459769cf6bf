/-!
Tables of answers under keys of any kind.
-/
namespace Annotations

/-- Values under keys; putting a value under a key replaces the one there. -/
abbrev Table (κ ν : Type) := List (κ × ν)

namespace Table

variable {κ ν : Type} [DecidableEq κ]

def find? : Table κ ν → κ → Option ν
  | [], _ => none
  | (key, value) :: rest, wanted => if key = wanted then some value else find? rest wanted

def set : Table κ ν → κ → ν → Table κ ν
  | [], wanted, value => [(wanted, value)]
  | (key, old) :: rest, wanted, value =>
    if key = wanted then (key, value) :: rest else (key, old) :: set rest wanted value

@[simp] theorem find?_nil (wanted : κ) : find? ([] : Table κ ν) wanted = none := rfl

@[simp] theorem find?_set (table : Table κ ν) (key other : κ) (value : ν) :
    find? (set table key value) other = if key = other then some value else find? table other := by
  induction table with
  | nil => simp [set, find?]
  | cons head rest ih =>
    obtain ⟨k, old⟩ := head
    by_cases h : k = key
    · subst h
      by_cases h' : k = other <;> simp [set, find?, h']
    · by_cases h' : k = other
      · subst h'
        simp [set, find?, h, Ne.symm h]
      · simp [set, find?, h, h', ih]

/-- What holds of all values of a table and of one more holds of all after that is put in. -/
theorem forall_find?_set {P : κ → ν → Prop} {table : Table κ ν} {key : κ} {value : ν}
    (all : ∀ other found, find? table other = some found → P other found) (here : P key value)
    (other : κ) (found : ν) (h : find? (set table key value) other = some found) : P other found := by
  rw [find?_set] at h
  split at h
  · rename_i same
    cases h
    exact same ▸ here
  · exact all other found h

theorem find?_append (table table' : Table κ ν) (key : κ) :
    find? (table ++ table') key = (find? table key).or (find? table' key) := by
  induction table with
  | nil => rfl
  | cons entry rest ih =>
    obtain ⟨other, value⟩ := entry
    rw [List.cons_append, find?, find?, ih]
    split <;> rfl

end Table
end Annotations
