/-!
Entries under names, in the order in which the names were first put in. Putting a value under a
name already there keeps its place; the first entry of a name is the one that counts.
-/
namespace Annotations

universe u v

/-- Named values in insertion order. -/
abbrev Entries (α : Type u) := List (String × α)

namespace Entries

variable {α : Type u} {β : Type v}

/-- The value under a name. -/
def get? : Entries α → String → Option α
  | [], _ => none
  | (key, value) :: rest, name => if key = name then some value else get? rest name

/-- Sets the value under a name, in place if the name is there and at the end if it is not. -/
def put : Entries α → String → α → Entries α
  | [], name, value => [(name, value)]
  | (key, old) :: rest, name, value =>
    if key = name then (key, value) :: rest else (key, old) :: put rest name value

/-- Takes a name out and closes the gap. -/
def remove : Entries α → String → Entries α
  | [], _ => []
  | (key, value) :: rest, name => if key = name then rest else (key, value) :: remove rest name

def names (entries : Entries α) : List String := entries.map Prod.fst

def has (entries : Entries α) (name : String) : Bool := (get? entries name).isSome

/-- Puts the pairs of a list in one after another. -/
def putAll (entries : Entries α) (pairs : List (String × α)) : Entries α :=
  pairs.foldl (fun acc pair => put acc pair.1 pair.2) entries

def ofPairs (pairs : List (String × α)) : Entries α := putAll [] pairs

/-- Puts a value in front of the first greater name, in entries that stand in name order. -/
def putSorted : Entries α → String → α → Entries α
  | [], name, value => [(name, value)]
  | (key, old) :: rest, name, value =>
    if key = name then (key, value) :: rest
    else if name < key then (name, value) :: (key, old) :: rest
    else (key, old) :: putSorted rest name value

/-- The same entries in name order, the first entry of each name only. -/
def sorted : Entries α → Entries α
  | [] => []
  | (key, value) :: rest => putSorted (sorted rest) key value

@[simp] theorem get?_nil (name : String) : get? ([] : Entries α) name = none := rfl

@[simp] theorem get?_cons (key name : String) (value : α) (rest : Entries α) :
    get? ((key, value) :: rest) name = if key = name then some value else get? rest name := rfl

@[simp] theorem names_nil : names ([] : Entries α) = [] := rfl

@[simp] theorem names_cons (key : String) (value : α) (rest : Entries α) :
    names ((key, value) :: rest) = key :: names rest := rfl

@[simp] theorem get?_put (entries : Entries α) (name other : String) (value : α) :
    get? (put entries name value) other = if name = other then some value else get? entries other := by
  induction entries with
  | nil => simp [put]
  | cons head rest ih =>
    obtain ⟨key, old⟩ := head
    by_cases h : key = name
    · subst h
      by_cases h' : key = other <;> simp [put, h']
    · by_cases h' : key = other
      · subst h'
        simp [put, h, Ne.symm h]
      · simp [put, h, h', ih]

/-- Looking a name up and changing what is found is looking it up among changed values. -/
theorem get?_map (change : α → β) (entries : Entries α) (name : String) :
    get? (entries.map fun entry => (entry.1, change entry.2)) name =
      (get? entries name).map change := by
  induction entries with
  | nil => rfl
  | cons entry rest ih =>
    obtain ⟨key, value⟩ := entry
    by_cases same : key = name
    · simp [same]
    · simp [same, ih]

theorem get?_eq_none_iff {entries : Entries α} {name : String} :
    get? entries name = none ↔ name ∉ names entries := by
  induction entries with
  | nil => simp
  | cons head rest ih =>
    obtain ⟨key, value⟩ := head
    by_cases h : key = name
    · simp [h]
    · simp [h, Ne.symm h, ih]

theorem get?_of_mem {entries : Entries α} (distinct : (names entries).Nodup) {name : String}
    {value : α} (h : (name, value) ∈ entries) : get? entries name = some value := by
  induction entries with
  | nil => cases h
  | cons head rest ih =>
    obtain ⟨key, old⟩ := head
    obtain ⟨fresh, distinct⟩ := List.nodup_cons.1 distinct
    rcases List.mem_cons.1 h with same | h
    · cases same
      simp
    · have other : key ≠ name := by
        rintro rfl
        exact fresh (List.mem_map.2 ⟨_, h, rfl⟩)
      rw [get?_cons, if_neg other]
      exact ih distinct h

theorem mem_of_get? {entries : Entries α} {name : String} {value : α}
    (h : get? entries name = some value) : (name, value) ∈ entries := by
  induction entries with
  | nil => simp at h
  | cons head rest ih =>
    obtain ⟨key, old⟩ := head
    by_cases same : key = name
    · simp_all
    · simp_all

/-- A name already there keeps its place, a new one goes last. -/
theorem names_put (entries : Entries α) (name : String) (value : α) :
    names (put entries name value) =
      if name ∈ names entries then names entries else names entries ++ [name] := by
  induction entries with
  | nil => simp [put]
  | cons head rest ih =>
    obtain ⟨key, old⟩ := head
    by_cases h : key = name
    · simp [put, h]
    · have h' : ¬ name = key := fun e => h e.symm
      by_cases m : name ∈ names rest <;> simp [put, h, h', ih, m]

theorem names_put_of_mem {entries : Entries α} {name : String} (mem : name ∈ names entries)
    (value : α) : names (put entries name value) = names entries := by
  rw [names_put, if_pos mem]

theorem names_put_of_fresh {entries : Entries α} {name : String} (fresh : name ∉ names entries)
    (value : α) : names (put entries name value) = names entries ++ [name] := by
  rw [names_put, if_neg fresh]

theorem mem_names_of_has {entries : Entries α} {name : String} (there : has entries name = true) :
    name ∈ names entries := by
  refine Decidable.byContradiction fun fresh => ?_
  rw [has, get?_eq_none_iff.2 fresh] at there
  cases there

theorem nodup_names_put {entries : Entries α} (h : (names entries).Nodup) (name : String) (value : α) :
    (names (put entries name value)).Nodup := by
  rw [names_put]
  split
  · exact h
  · rename_i m
    exact List.nodup_append.2 ⟨h, by simp, by
      intro a ha b hb
      rw [List.mem_singleton.1 hb]
      exact fun e => m (e ▸ ha)⟩

/-- Of pairs with distinct names, each is found, before what was there. -/
theorem get?_putAll {entries : Entries α} {pairs : List (String × α)}
    (distinct : (names pairs).Nodup) (name : String) :
    get? (putAll entries pairs) name = (get? pairs name).or (get? entries name) := by
  induction pairs generalizing entries with
  | nil => rfl
  | cons pair rest ih =>
    obtain ⟨key, value⟩ := pair
    obtain ⟨fresh, distinct⟩ := List.nodup_cons.1 distinct
    change get? (putAll (put entries key value) rest) name = _
    rw [ih distinct, get?_put, get?_cons]
    split
    · rename_i same
      subst same
      rw [get?_eq_none_iff.2 fresh]
      rfl
    · rfl

theorem get?_ofPairs {pairs : List (String × α)} (distinct : (names pairs).Nodup) (name : String) :
    get? (ofPairs pairs) name = get? pairs name := by
  rw [ofPairs, get?_putAll distinct, get?_nil, Option.or_none]

/-- What is found after pairs were put in is one of them or was there before. -/
theorem mem_of_get?_putAll {entries : Entries α} {pairs : List (String × α)} {name : String}
    {value : α} (h : get? (putAll entries pairs) name = some value) :
    (name, value) ∈ pairs ∨ get? entries name = some value := by
  induction pairs generalizing entries with
  | nil => exact .inr h
  | cons pair rest ih =>
    rcases ih h with mem | before
    · exact .inl (.tail pair mem)
    · rw [get?_put] at before
      split at before
      · rename_i here
        cases before
        subst here
        exact .inl (.head rest)
      · exact .inr before

theorem isSome_get?_putAll {entries : Entries α} {pairs : List (String × α)} {name : String}
    (h : name ∈ names pairs ∨ (get? entries name).isSome = true) :
    (get? (putAll entries pairs) name).isSome = true := by
  induction pairs generalizing entries with
  | nil => exact h.resolve_left (by simp)
  | cons pair rest ih =>
    obtain ⟨key, value⟩ := pair
    refine ih ?_
    rw [get?_put]
    by_cases here : key = name
    · simp [here]
    · simpa [here, Ne.symm here] using h

theorem nodup_names_putAll {entries : Entries α} (h : (names entries).Nodup)
    (pairs : List (String × α)) : (names (putAll entries pairs)).Nodup := by
  induction pairs generalizing entries with
  | nil => exact h
  | cons pair rest ih => exact ih (nodup_names_put h pair.1 pair.2)

theorem nodup_names_ofPairs (pairs : List (String × α)) : (names (ofPairs pairs)).Nodup :=
  nodup_names_putAll (by simp) pairs

end Entries
end Annotations
