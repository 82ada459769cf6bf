import Annotations.Proofs.Alias.Loopless

/-!
Walks for an alias through types that may be nested in themselves. Of the types such a walk has come
to, those without loops are plain, but for the ones around it. So a walk from kept answers ends as the
walk from none does, or it ends early at a type with a loop that is kept as aliased.
-/
namespace Annotations
namespace Registry

open Relation

/-- All types seen that have no loops are plain, but for some the walk is still in. -/
def Explored (reg : Registry) (around seen : List String) : Prop :=
  ∀ other ∈ seen, reg.Loopless other → reg.PlainWithin other ∨ other ∈ around

/-- Two lists hold the same types, but for plain ones. -/
def SameButPlain (reg : Registry) (seen seen' : List String) : Prop :=
  ∀ other, reg.PlainWithin other ∨ (other ∈ seen ↔ other ∈ seen')

variable {reg : Registry} {known : Table String Bool} {seen seen' around path : List String}
  {type inner : String} {attr : Attr} {attrs : List Attr} {decl : AnnotType}

namespace Explored

theorem enter (h : reg.Explored around seen) (inner : String) :
    reg.Explored (inner :: around) (inner :: seen) := by
  intro other mem loopless
  rcases List.mem_cons.1 mem with rfl | mem
  · exact .inr (.head around)
  · exact (h other mem loopless).imp_right (.tail inner)

theorem leave (h : reg.Explored (inner :: around) seen)
    (plain : reg.Loopless inner → reg.PlainWithin inner) : reg.Explored around seen := by
  intro other mem loopless
  rcases h other mem loopless with within | mem
  · exact .inl within
  · rcases List.mem_cons.1 mem with rfl | mem
    · exact .inl (plain loopless)
    · exact .inr mem

theorem grow (h : reg.Explored around seen)
    (new : ∀ other ∈ seen', other ∈ seen ∨ reg.PlainWithin other) : reg.Explored around seen' :=
  fun other mem loopless => (new other mem).elim (fun early => h other early loopless) .inl

/-- The types around a type are not nested in it, if it has no loops. -/
theorem clear (h : reg.Explored (type :: path) seen)
    (nested : ∀ outer ∈ path, TransGen reg.Nests outer type) (loopless : reg.Loopless type) :
    reg.Clear type seen := by
  intro other mem way
  rcases h other mem (loopless.within way.to_reflTransGen) with within | mem
  · exact within
  · rcases List.mem_cons.1 mem with rfl | mem
    · exact absurd way (loopless _ .refl)
    · exact absurd (way.trans (nested other mem)) (loopless _ .refl)

/-- A type nested in one on the way to it has loops. -/
theorem not_seen (h : reg.Explored (type :: path) seen)
    (nested : ∀ outer ∈ path, TransGen reg.Nests outer type) (step : reg.Nests type inner)
    (loopless : reg.Loopless inner) (aliased : ¬ reg.PlainWithin inner) : inner ∉ seen := by
  intro mem
  rcases h inner mem loopless with within | mem
  · exact aliased within
  · rcases List.mem_cons.1 mem with rfl | mem
    · exact loopless _ .refl (.single step)
    · exact loopless _ .refl ((nested inner mem).tail step)

end Explored

theorem SameButPlain.grow {more more' : List String} (h : reg.SameButPlain seen seen')
    (sub : seen ⊆ more) (sub' : seen' ⊆ more')
    (new : ∀ other ∈ more, other ∈ seen ∨ reg.PlainWithin other)
    (new' : ∀ other ∈ more', other ∈ seen' ∨ reg.PlainWithin other) :
    reg.SameButPlain more more' := by
  intro other
  rcases h other with within | same
  · exact .inl within
  · by_cases within : reg.PlainWithin other
    · exact .inl within
    · refine .inr ⟨fun mem => sub' (same.1 ?_), fun mem => sub (same.2 ?_)⟩
      · exact (new other mem).resolve_right within
      · exact (new' other mem).resolve_right within

theorem SameButPlain.enter (h : reg.SameButPlain seen seen') (inner : String) :
    reg.SameButPlain (inner :: seen) (inner :: seen') :=
  fun other => (h other).imp_right fun same => by simp [same]

theorem nested_cons (nested : ∀ outer ∈ path, TransGen reg.Nests outer type)
    (step : reg.Nests type inner) : ∀ outer ∈ type :: path, TransGen reg.Nests outer inner := by
  intro outer mem
  rcases List.mem_cons.1 mem with rfl | mem
  · exact .single step
  · exact (nested outer mem).tail step

/-- A type without loops that a walk enters comes to what its attributes do. -/
theorem entered_comesOut (fair : reg.FairAnswers known)
    (nested : ∀ outer ∈ path, TransGen reg.Nests outer type)
    (explored : reg.Explored (type :: path) seen) (step : reg.Nests type inner)
    (found : reg.type inner = .ok decl) (loopless : reg.Loopless inner) :
    reg.ComesOut inner decl.attrs (inner :: seen)
      (reg.walk known (inner :: seen) (visits (type :: path) inner decl.attrs)) := by
  refine walk_comesOut fair _ loopless found (List.Subset.refl _) ?_
  exact (explored.enter inner).clear (nested_cons nested step) loopless

/-- What the end of a walk over attributes of a type says of the types on the way to an alias, or of
all types seen. -/
def Leaves (reg : Registry) (type : String) (path : List String) : WalkEnd → Prop
  | .failed _ => True
  | .found way => ∀ other ∈ way,
      other ∈ type :: path ∨ TransGen reg.Nests type other ∧ reg.Earned other
  | .through seen => reg.Explored (type :: path) seen

theorem walk_leaves (fair : reg.FairAnswers known) (found : reg.type type = .ok decl)
    (sub : attrs ⊆ decl.attrs) (nested : ∀ outer ∈ path, TransGen reg.Nests outer type)
    (explored : reg.Explored (type :: path) seen) :
    reg.Leaves type path (reg.walk known seen (visits path type attrs)) := by
  revert nested explored
  refine reg.attrs_induction
    (P := fun seen path type _ attrs => (∀ outer ∈ path, TransGen reg.Nests outer type) →
      reg.Explored (type :: path) seen →
      reg.Leaves type path (reg.walk known seen (visits path type attrs)))
    (fun seen path type decl _ explored => ?nil)
    (fun seen path type decl attr attrs found attrMem inside after nested explored => ?_)
    seen path found sub
  case nil =>
    rw [visits, List.map_nil, walk_nil]
    exact explored
  rw [visits_cons]
  have later := fun {seen'} (new : seen ⊆ seen') => after seen' new nested
  cases turn : reg.turn known seen ⟨path, type, attr⟩ with
  | fault e =>
    rw [walk_fault turn]
    trivial
  | reach =>
    rw [walk_reach turn]
    exact fun other mem => .inl mem
  | pass =>
    rw [walk_pass turn]
    exact later (List.Subset.refl _) explored
  | enter inner innerDecl =>
    obtain ⟨_, step, _, fresh, innerFound⟩ := turn_enter turn
    have nests : reg.Nests type inner := ⟨decl, attr, found, attrMem, step⟩
    have comes := entered_comesOut fair nested explored nests innerFound
    have entered := inside inner innerDecl fresh innerFound (nested_cons nested nests)
      (explored.enter inner)
    rw [walk_enter turn]
    revert comes entered
    cases ended : reg.walk known (inner :: seen)
        (visits (type :: path) inner innerDecl.attrs) with
    | failed e => exact fun _ _ => trivial
    | found way =>
      intro comes entered other mem
      rcases entered other mem with mem | ⟨further, earned⟩
      · rcases List.mem_cons.1 mem with rfl | mem
        · exact .inr ⟨.single nests, fun loopless => ⟨innerDecl, innerFound, comes loopless⟩⟩
        · exact .inl mem
      · exact .inr ⟨.head nests further, earned⟩
    | through middle =>
      intro comes entered
      exact later (fun other mem => walk_subset ended (.tail inner mem))
        (entered.leave fun loopless => (comes loopless).1.plainWithin innerFound)

/-- How the walk over attributes of a type from no answers ends and how the walk from kept ones does. -/
inductive EndsLike (reg : Registry) (known : Table String Bool) (type : String) :
    WalkEnd → WalkEnd → Prop
  | failed (e : Error) : EndsLike reg known type (.failed e) (.failed e)
  | found (way way' : List String) : EndsLike reg known type (.found way) (.found way')
  | through {seen seen' : List String} : reg.SameButPlain seen seen' →
    EndsLike reg known type (.through seen) (.through seen')
  | early {ended : WalkEnd} {way : List String} {inner : String} :
    TransGen reg.Nests type inner → known.find? inner = some true → ¬ reg.Loopless inner →
    EndsLike reg known type ended (.found way)

theorem EndsLike.enter {ended ended' : WalkEnd} {next next' : List String → WalkEnd}
    (h : reg.EndsLike known inner ended ended') (step : reg.Nests type inner)
    (after : ∀ seen seen', ended = .through seen → reg.SameButPlain seen seen' →
      reg.EndsLike known type (next seen) (next' seen')) :
    reg.EndsLike known type (ended.andThen next) (ended'.andThen next') := by
  cases h with
  | failed e => exact .failed e
  | found way way' => exact .found way way'
  | through same => exact after _ _ rfl same
  | early way answer loops => exact .early (.head step way) answer loops

/-- Walks turn alike at an attribute of a type that is not answered and that both or neither have
seen. -/
theorem turn_congr {visit : AttrVisit}
    (alike : reg.aliasLink visit.type visit.attr.name = .ok none →
      ∀ inner, visit.attr.type.nested? = some inner →
        known.find? inner = none ∧ (inner ∈ seen ↔ inner ∈ seen')) :
    reg.turn known seen' visit = reg.turn [] seen visit := by
  unfold turn
  cases own : reg.aliasLink visit.type visit.attr.name with
  | error e => rfl
  | ok link =>
    cases link with
    | some link => rfl
    | none =>
      cases step : visit.attr.type.nested? with
      | none => rfl
      | some inner =>
        obtain ⟨unanswered, same⟩ := alike own inner step
        simp [unanswered, same]

/-- At a type that is kept as aliased the walk from kept answers ends. The other one goes on and finds
an alias within the type, unless that has a loop. -/
theorem walk_yes (fair : reg.FairAnswers known)
    (nested : ∀ outer ∈ path, TransGen reg.Nests outer type)
    (explored : reg.Explored (type :: path) seen) (nests : reg.Nests type inner)
    (own : reg.aliasLink type attr.name = .ok none) (step : attr.type.nested? = some inner)
    (answer : known.find? inner = some true) (rest : List AttrVisit) :
    reg.EndsLike known type (reg.walk [] seen (⟨path, type, attr⟩ :: rest))
      (reg.walk known seen' (⟨path, type, attr⟩ :: rest)) := by
  have reach : reg.turn known seen' ⟨path, type, attr⟩ = .reach := by
    simp only [turn, own, step, answer]
  rw [walk_reach reach]
  by_cases loopless : reg.Loopless inner
  · obtain ⟨innerDecl, innerFound, comes⟩ := fair.earned inner answer loopless
    have fresh := explored.not_seen nested nests loopless fun within =>
      within.not_aliasWithin (fair.aliased inner answer)
    have entered := entered_comesOut fairAnswers_nil nested explored nests innerFound loopless
    rw [walk_enter (turn_fresh own step rfl fresh innerFound)]
    revert entered
    cases reg.walk [] (inner :: seen) (visits (type :: path) inner innerDecl.attrs) with
    | failed e => exact fun failed => by cases comes.unique failed
    | found way => exact fun _ => .found way _
    | through middle => exact fun came => by cases comes.unique came.1
  · exact .early (.single nests) answer loopless

theorem walk_endsLike (fair : reg.FairAnswers known) (found : reg.type type = .ok decl)
    (sub : attrs ⊆ decl.attrs) (nested : ∀ outer ∈ path, TransGen reg.Nests outer type)
    (explored : reg.Explored (type :: path) seen) (same : reg.SameButPlain seen seen') :
    reg.EndsLike known type (reg.walk [] seen (visits path type attrs))
      (reg.walk known seen' (visits path type attrs)) := by
  revert nested explored same
  refine reg.attrs_induction
    (P := fun seen path type _ attrs => ∀ seen', (∀ outer ∈ path, TransGen reg.Nests outer type) →
      reg.Explored (type :: path) seen → reg.SameButPlain seen seen' →
      reg.EndsLike known type (reg.walk [] seen (visits path type attrs))
        (reg.walk known seen' (visits path type attrs)))
    (fun seen path type decl seen' _ _ same => ?nil)
    (fun seen path type decl attr attrs found attrMem inside after seen' nested explored same => ?_)
    seen path found sub seen'
  case nil =>
    rw [visits, List.map_nil, walk_nil, walk_nil]
    exact .through same
  rw [visits_cons]
  have later := fun {more more'} (new : seen ⊆ more) => after more new more' nested
  by_cases plain : reg.PlainAt type attr
  · obtain ⟨more, went, new, only⟩ := walk_plain_cons fairAnswers_nil seen ⟨path, type, attr⟩ plain
      (visits path type attrs)
    obtain ⟨more', went', new', only'⟩ := walk_plain_cons fair seen' ⟨path, type, attr⟩ plain
      (visits path type attrs)
    rw [went, went']
    exact later new (explored.grow only) (same.grow new new' only only')
  by_cases yes : reg.aliasLink type attr.name = .ok none ∧
      ∃ inner, attr.type.nested? = some inner ∧ known.find? inner = some true
  · obtain ⟨own, inner, step, answer⟩ := yes
    exact walk_yes fair nested explored ⟨decl, attr, found, attrMem, step⟩ own step answer _
  -- what is left are faults, aliases of the type itself and nested types that are not answered
  have turns : reg.turn known seen' ⟨path, type, attr⟩ = reg.turn [] seen ⟨path, type, attr⟩ := by
    refine turn_congr fun own inner step => ?_
    have within : ¬ reg.PlainWithin inner := fun within => plain (.of_nested own step within)
    refine ⟨?_, (same inner).resolve_left within⟩
    cases answer : known.find? inner with
    | none => rfl
    | some answer' =>
      cases answer' with
      | false => exact absurd (fair.plain inner answer) within
      | true => exact absurd ⟨own, inner, step, answer⟩ yes
  cases turn : reg.turn [] seen ⟨path, type, attr⟩ with
  | fault e =>
    rw [walk_fault turn, walk_fault (turns.trans turn)]
    exact .failed e
  | reach =>
    rw [walk_reach turn, walk_reach (turns.trans turn)]
    exact .found _ _
  | pass =>
    rw [walk_pass turn, walk_pass (turns.trans turn)]
    exact later (List.Subset.refl _) explored same
  | enter inner innerDecl =>
    obtain ⟨_, step, _, fresh, innerFound⟩ := turn_enter turn
    have nests : reg.Nests type inner := ⟨decl, attr, found, attrMem, step⟩
    have entered := inside inner innerDecl fresh innerFound (inner :: seen')
      (nested_cons nested nests) (explored.enter inner) (same.enter inner)
    rw [walk_enter turn, walk_enter (turns.trans turn)]
    refine entered.enter nests fun middle middle' ended alike => ?_
    refine later (fun other mem => walk_subset ended (.tail inner mem)) ?_ alike
    have leaves := walk_leaves fairAnswers_nil innerFound (List.Subset.refl _)
      (nested_cons nested nests) (explored.enter inner)
    have comes := entered_comesOut fairAnswers_nil nested explored nests innerFound
    rw [ended] at leaves comes
    exact leaves.leave fun loopless => (comes loopless).1.plainWithin innerFound

end Registry
end Annotations
