import Annotations.Proofs.Alias.Walk

/-!
Walks for an alias from types without loops, where no type within is nested in itself. Such a walk comes
to what the attributes come to if each type nested in them is asked by itself; it does not matter which
answers are kept, nor which plain types were seen before.
-/
namespace Annotations
namespace Registry

open Relation

/-- No type within a type is nested in itself. -/
def Loopless (reg : Registry) (type : String) : Prop :=
  ∀ inner, ReflTransGen reg.Nests type inner → ¬ TransGen reg.Nests inner inner

/-- An attribute declares no alias and nests none. -/
def PlainAt (reg : Registry) (type : String) (attr : Attr) : Prop :=
  reg.aliasLink type attr.name = .ok none ∧
    ∀ inner, attr.type.nested? = some inner → reg.PlainWithin inner

/-- What attributes of a type come to, with each nested type asked by itself: the first fault or the
first alias, if there is one. -/
inductive ComesTo (reg : Registry) : String → List Attr → Except Error Bool → Prop
  | nil {type : String} : ComesTo reg type [] (.ok false)
  | fault {type : String} {attr : Attr} {rest : List Attr} {e : Error} :
    reg.aliasLink type attr.name = .error e → ComesTo reg type (attr :: rest) (.error e)
  | own {type : String} {attr : Attr} {rest : List Attr} {link : AliasLink} :
    reg.aliasLink type attr.name = .ok (some link) → ComesTo reg type (attr :: rest) (.ok true)
  | plain {type : String} {attr : Attr} {rest : List Attr} {outcome : Except Error Bool} :
    reg.PlainAt type attr → ComesTo reg type rest outcome →
    ComesTo reg type (attr :: rest) outcome
  | unknown {type inner : String} {attr : Attr} {rest : List Attr} {e : Error} :
    reg.aliasLink type attr.name = .ok none → attr.type.nested? = some inner →
    reg.type inner = .error e → ComesTo reg type (attr :: rest) (.error e)
  | nested {type inner : String} {attr : Attr} {rest : List Attr} {decl : AnnotType}
      {outcome : Except Error Bool} :
    reg.aliasLink type attr.name = .ok none → attr.type.nested? = some inner →
    reg.type inner = .ok decl → ComesTo reg inner decl.attrs outcome → outcome ≠ .ok false →
    ComesTo reg type (attr :: rest) outcome

/-- A type without loops comes to an alias if it is asked by itself. -/
def Earned (reg : Registry) (type : String) : Prop :=
  reg.Loopless type → ∃ decl, reg.type type = .ok decl ∧ reg.ComesTo type decl.attrs (.ok true)

/-- Kept answers that are true, with every yes earned. -/
structure FairAnswers (reg : Registry) (known : Table String Bool) : Prop where
  aliased : ∀ type, known.find? type = some true → reg.AliasWithin type
  plain : ∀ type, known.find? type = some false → reg.PlainWithin type
  earned : ∀ type, known.find? type = some true → reg.Earned type

variable {reg : Registry} {known : Table String Bool} {seen seen' : List String}
  {type inner : String} {attr : Attr} {attrs : List Attr} {decl : AnnotType}
  {outcome outcome' : Except Error Bool}

theorem fairAnswers_nil : reg.FairAnswers [] := by
  constructor <;> simp

theorem Loopless.within (h : reg.Loopless type) (way : ReflTransGen reg.Nests type inner) :
    reg.Loopless inner :=
  fun deep further => h deep (way.trans further)

theorem PlainWithin.nested (h : reg.PlainWithin type) (step : reg.Nests type inner) :
    reg.PlainWithin inner :=
  fun deep further => h deep (.head step further)

theorem PlainWithin.at (h : reg.PlainWithin type) (found : reg.type type = .ok decl)
    (mem : attr ∈ decl.attrs) : reg.PlainAt type attr := by
  obtain ⟨decl', found', links⟩ := h type .refl
  cases found.symm.trans found'
  exact ⟨links attr mem, fun inner step => h.nested ⟨decl, attr, found, mem, step⟩⟩

theorem PlainAt.of_nested (own : reg.aliasLink type attr.name = .ok none)
    (step : attr.type.nested? = some inner) (within : reg.PlainWithin inner) :
    reg.PlainAt type attr :=
  ⟨own, fun other nested => by
    cases step.symm.trans nested
    exact within⟩

theorem plainWithin_of_attrs (found : reg.type type = .ok decl)
    (plain : ∀ attr ∈ decl.attrs, reg.PlainAt type attr) : reg.PlainWithin type := by
  intro inner way
  rcases way.cases_head with rfl | ⟨next, step, further⟩
  · exact ⟨decl, found, fun attr mem => (plain attr mem).1⟩
  · obtain ⟨decl', attr, found', mem, nested⟩ := step
    cases found.symm.trans found'
    exact (plain attr mem).2 next nested inner further

namespace ComesTo

theorem plainAt (h : reg.ComesTo type attrs (.ok false)) : ∀ attr ∈ attrs, reg.PlainAt type attr := by
  generalize answer : (Except.ok false : Except Error Bool) = outcome at h
  induction h with
  | nil => simp
  | fault _ => cases answer
  | own _ => cases answer
  | plain here _ ih =>
    intro attr mem
    rcases List.mem_cons.1 mem with rfl | mem
    · exact here
    · exact ih answer attr mem
  | unknown _ _ _ => cases answer
  | nested _ _ _ _ stops _ => exact absurd answer.symm stops

theorem plainWithin (found : reg.type type = .ok decl)
    (h : reg.ComesTo type decl.attrs (.ok false)) : reg.PlainWithin type :=
  plainWithin_of_attrs found h.plainAt

/-- Plain attributes come to no alias. -/
theorem of_plain (h : reg.ComesTo type attrs outcome)
    (plain : ∀ attr ∈ attrs, reg.PlainAt type attr) : outcome = .ok false := by
  induction h with
  | nil => rfl
  | fault failed => cases (plain _ (.head _)).1.symm.trans failed
  | own found => cases (plain _ (.head _)).1.symm.trans found
  | plain _ _ ih => exact ih fun attr mem => plain attr (.tail _ mem)
  | unknown _ step unknown =>
    obtain ⟨decl, found, _⟩ := (plain _ (.head _)).2 _ step _ .refl
    cases found.symm.trans unknown
  | nested _ step found _ _ ih =>
    exact ih fun attr mem => ((plain _ (.head _)).2 _ step).at found mem

theorem unique (h : reg.ComesTo type attrs outcome) (h' : reg.ComesTo type attrs outcome') :
    outcome = outcome' := by
  induction h generalizing outcome' with
  | nil =>
    cases h'
    rfl
  | fault failed =>
    cases h' with
    | fault failed' =>
      cases failed.symm.trans failed'
      rfl
    | own found => cases failed.symm.trans found
    | plain plain _ => cases failed.symm.trans plain.1
    | unknown own _ _ => cases failed.symm.trans own
    | nested own _ _ _ _ => cases failed.symm.trans own
  | own found =>
    cases h' with
    | fault failed => cases found.symm.trans failed
    | own _ => rfl
    | plain plain _ => cases found.symm.trans plain.1
    | unknown own _ _ => cases found.symm.trans own
    | nested own _ _ _ _ => cases found.symm.trans own
  | plain plain _ ih =>
    cases h' with
    | fault failed => cases plain.1.symm.trans failed
    | own found => cases plain.1.symm.trans found
    | plain _ later => exact ih later
    | unknown _ step unknown =>
      obtain ⟨decl, found, _⟩ := plain.2 _ step _ .refl
      cases found.symm.trans unknown
    | nested _ step found inside stops =>
      exact absurd (inside.of_plain fun attr mem => (plain.2 _ step).at found mem) stops
  | unknown own step unknown =>
    cases h' with
    | fault failed => cases own.symm.trans failed
    | own found => cases own.symm.trans found
    | plain plain _ =>
      obtain ⟨decl, found, _⟩ := plain.2 _ step _ .refl
      cases found.symm.trans unknown
    | unknown _ step' unknown' =>
      cases step.symm.trans step'
      cases unknown.symm.trans unknown'
      rfl
    | nested _ step' found _ _ =>
      cases step.symm.trans step'
      cases unknown.symm.trans found
  | nested own step found inside stops ih =>
    cases h' with
    | fault failed => cases own.symm.trans failed
    | own found => cases own.symm.trans found
    | plain plain _ =>
      exact absurd (inside.of_plain fun attr mem => (plain.2 _ step).at found mem) stops
    | unknown _ step' unknown =>
      cases step.symm.trans step'
      cases unknown.symm.trans found
    | nested _ step' found' inside' _ =>
      cases step.symm.trans step'
      cases found.symm.trans found'
      exact ih inside'

end ComesTo

section

variable (fair : reg.FairAnswers known)

include fair

/-- A walk passes a plain attribute, or enters a plain type. -/
theorem turn_plain {visit : AttrVisit} (plain : reg.PlainAt visit.type visit.attr) :
    reg.turn known seen visit = .pass ∨ ∃ inner decl,
      reg.turn known seen visit = .enter inner decl ∧ reg.PlainWithin inner := by
  unfold turn
  rw [plain.1]
  cases step : visit.attr.type.nested? with
  | none => exact .inl rfl
  | some inner =>
    have within := plain.2 inner step
    obtain ⟨decl, found, _⟩ := within inner .refl
    simp only
    cases answer : known.find? inner with
    | some answer' =>
      cases answer' with
      | true => exact absurd (fair.aliased inner answer) within.not_aliasWithin
      | false => exact .inl rfl
    | none =>
      simp only
      split
      · exact .inl rfl
      · rw [found]
        exact .inr ⟨inner, decl, rfl, within⟩

/-- A walk comes through plain attributes and sees nothing but plain types on the way. -/
theorem walk_plain (seen : List String) (todo : List AttrVisit)
    (plain : ∀ visit ∈ todo, reg.PlainAt visit.type visit.attr) :
    ∃ seen', reg.walk known seen todo = .through seen' ∧
      ∀ type ∈ seen', type ∈ seen ∨ reg.PlainWithin type := by
  revert plain
  refine reg.walk_induction
    (P := fun seen todo => (∀ visit ∈ todo, reg.PlainAt visit.type visit.attr) → ∃ seen',
      reg.walk known seen todo = .through seen' ∧
        ∀ type ∈ seen', type ∈ seen ∨ reg.PlainWithin type)
    (fun seen _ => ⟨seen, walk_nil, fun type mem => .inl mem⟩)
    (fun seen visit rest inside after plain => ?_) seen todo
  have later := fun other mem => plain other (.tail visit mem)
  rcases turn_plain fair (plain visit (.head rest)) with pass | ⟨inner, decl, enter, within⟩
  · rw [walk_pass pass]
    exact after seen (List.Subset.refl _) later
  · obtain ⟨_, _, _, fresh, found⟩ := turn_enter enter
    obtain ⟨middle, entered, new⟩ := inside inner decl (visit.type :: visit.path) fresh found
      fun other mem => by
        obtain ⟨attr, attrMem, rfl⟩ := List.mem_map.1 mem
        exact within.at found attrMem
    have sub : seen ⊆ middle := fun type mem => walk_subset entered (.tail inner mem)
    obtain ⟨seen', came, new'⟩ := after middle sub later
    refine ⟨seen', ?_, fun type mem => ?_⟩
    · rw [walk_enter enter, entered]
      exact came
    · rcases new' type mem with early | plain
      · rcases new type early with early | plain
        · rcases List.mem_cons.1 early with rfl | early
          · exact .inr within
          · exact .inl early
        · exact .inr plain
      · exact .inr plain

/-- A walk goes on behind a plain attribute, with only plain types seen meanwhile. -/
theorem walk_plain_cons (seen : List String) (visit : AttrVisit)
    (plain : reg.PlainAt visit.type visit.attr) (rest : List AttrVisit) :
    ∃ seen', reg.walk known seen (visit :: rest) = reg.walk known seen' rest ∧ seen ⊆ seen' ∧
      ∀ type ∈ seen', type ∈ seen ∨ reg.PlainWithin type := by
  obtain ⟨seen', came, new⟩ := walk_plain fair seen [visit] (by simpa using plain)
  refine ⟨seen', ?_, walk_subset came, new⟩
  rw [← List.singleton_append, walk_append, came]
  rfl

end

/-- What a walk over attributes of a type shows if it ends in some way, from the types it had seen. -/
def ComesOut (reg : Registry) (type : String) (attrs : List Attr) (seen : List String) :
    WalkEnd → Prop
  | .failed e => reg.ComesTo type attrs (.error e)
  | .found _ => reg.ComesTo type attrs (.ok true)
  | .through seen' => reg.ComesTo type attrs (.ok false) ∧
      ∀ other ∈ seen', other ∈ seen ∨ reg.PlainWithin other

theorem ComesOut.plain {ended : WalkEnd} (here : reg.PlainAt type attr)
    (new : ∀ other ∈ seen', other ∈ seen ∨ reg.PlainWithin other)
    (h : reg.ComesOut type attrs seen' ended) : reg.ComesOut type (attr :: attrs) seen ended := by
  cases ended with
  | failed e => exact ComesTo.plain here h
  | found path => exact ComesTo.plain here h
  | through after =>
    refine ⟨ComesTo.plain here h.1, fun other mem => ?_⟩
    rcases h.2 other mem with early | plain
    · exact new other early
    · exact .inr plain

/-- Going into a type comes to what that comes to, or to what the attributes behind it do. -/
theorem ComesOut.enter {ended : WalkEnd} {next : List String → WalkEnd}
    (own : reg.aliasLink type attr.name = .ok none) (step : attr.type.nested? = some inner)
    (found : reg.type inner = .ok decl) (h : reg.ComesOut inner decl.attrs (inner :: seen) ended)
    (later : ∀ middle, ended = .through middle →
      (∀ other ∈ middle, other ∈ seen ∨ reg.PlainWithin other) →
      reg.ComesOut type attrs middle (next middle)) :
    reg.ComesOut type (attr :: attrs) seen (ended.andThen next) := by
  cases ended with
  | failed e => exact .nested own step found h (by simp)
  | found way => exact .nested own step found h (by simp)
  | through middle =>
    obtain ⟨comes, new⟩ := h
    have within := comes.plainWithin found
    have new (other : String) (mem : other ∈ middle) : other ∈ seen ∨ reg.PlainWithin other := by
      rcases new other mem with early | plain
      · rcases List.mem_cons.1 early with rfl | early
        · exact .inr within
        · exact .inl early
      · exact .inr plain
    exact .plain (.of_nested own step within) new (later middle rfl new)

/-- Of the types seen all that are nested in a type are plain. -/
def Clear (reg : Registry) (type : String) (seen : List String) : Prop :=
  ∀ other ∈ seen, TransGen reg.Nests type other → reg.PlainWithin other

theorem Clear.enter (clear : reg.Clear type seen) (step : reg.Nests type inner)
    (loopless : reg.Loopless inner) : reg.Clear inner (inner :: seen) := by
  intro other mem way
  rcases List.mem_cons.1 mem with rfl | mem
  · exact absurd way (loopless _ .refl)
  · exact clear other mem (.head step way)

/-- A walk over the attributes of a type without loops comes to what they come to. -/
theorem walk_comesOut (fair : reg.FairAnswers known) (path : List String)
    (loopless : reg.Loopless type) (found : reg.type type = .ok decl) (sub : attrs ⊆ decl.attrs)
    (clear : reg.Clear type seen) :
    reg.ComesOut type attrs seen (reg.walk known seen (visits path type attrs)) := by
  revert loopless clear
  refine reg.attrs_induction
    (P := fun seen path type _ attrs => reg.Loopless type → reg.Clear type seen →
      reg.ComesOut type attrs seen (reg.walk known seen (visits path type attrs)))
    (fun seen path type decl _ _ => ?nil)
    (fun seen path type decl attr attrs found attrMem inside after loopless clear => ?_)
    seen path found sub
  case nil =>
    rw [visits, List.map_nil, walk_nil]
    exact ⟨.nil, fun other mem => .inl mem⟩
  rw [visits_cons]
  have later := fun {seen'} (new : seen ⊆ seen') => after seen' new loopless
  have pass (here : reg.PlainAt type attr)
      (turn : reg.turn known seen ⟨path, type, attr⟩ = .pass) :
      reg.ComesOut type (attr :: attrs) seen
        (reg.walk known seen (⟨path, type, attr⟩ :: visits path type attrs)) := by
    rw [walk_pass turn]
    exact .plain here (fun _ mem => .inl mem) (later (List.Subset.refl _) clear)
  cases own : reg.aliasLink type attr.name with
  | error e =>
    rw [walk_fault (e := e) (by simp only [turn, own])]
    exact .fault own
  | ok link =>
    cases link with
    | some link =>
      rw [walk_reach (by simp only [turn, own])]
      exact .own own
    | none =>
      cases step : attr.type.nested? with
      | none =>
        exact pass ⟨own, fun inner nested => by simp [step] at nested⟩
          (by simp only [turn, own, step])
      | some inner =>
        have nests : reg.Nests type inner := ⟨decl, attr, found, attrMem, step⟩
        have innerLoopless := loopless.within (.single nests)
        cases answer : known.find? inner with
        | some answer' =>
          cases answer' with
          | true =>
            obtain ⟨innerDecl, innerFound, comes⟩ := fair.earned inner answer innerLoopless
            rw [walk_reach (by simp only [turn, own, step, answer])]
            exact .nested own step innerFound comes (by simp)
          | false =>
            exact pass (.of_nested own step (fair.plain inner answer))
              (by simp only [turn, own, step, answer])
        | none =>
          by_cases again : inner ∈ seen
          · exact pass (.of_nested own step (clear inner again (.single nests)))
              (turn_seen own step answer again)
          · cases innerFound : reg.type inner with
            | error e =>
              rw [walk_fault (turn_unknown own step answer again innerFound)]
              exact .unknown own step innerFound
            | ok innerDecl =>
              have entered := inside inner innerDecl again innerFound innerLoopless
                (clear.enter nests innerLoopless)
              rw [walk_enter (turn_fresh own step answer again innerFound)]
              refine .enter own step innerFound entered fun middle ended new => ?_
              refine later (fun other mem => walk_subset ended (.tail inner mem))
                fun other mem way => ?_
              rcases new other mem with early | plain
              · exact clear other early way
              · exact plain

end Registry
end Annotations
