import Annotations.Alias.Queries
import Annotations.Proofs.Alias.Loops
import Annotations.Proofs.Alias.Symmetry
import Annotations.Vocabulary.Web
import Mathlib.Data.List.Induction

/-!
What is answered about a type after other questions. It is what would be answered first of all, or yes
where that would be a fault; for the latter an earlier question has to have found an alias in a type on
a loop. Whether a meta-annotation is present is answered by reachability at all times.
-/
namespace Annotations

open Annotations.Action SynthMemo Relation

namespace WalkEnd

/-- What the type a walk started at is answered. -/
def verdict : WalkEnd → Except Error Bool
  | .failed e => .error e
  | .found _ => .ok true
  | .through _ => .ok false

/-- The kept answers after a walk from a type. -/
def settle (type : String) (known : Table String Bool) : WalkEnd → Table String Bool
  | .failed _ => known
  | .found way => way.foldr (fun other table => table.set other true) known
  | .through _ => known.set type false

end WalkEnd

theorem find?_settle_found (type inner : String) (known : Table String Bool) (way : List String) :
    ((WalkEnd.found way).settle type known).find? inner =
      if inner ∈ way then some true else known.find? inner := by
  change Table.find? (way.foldr (fun other table => table.set other true) known) inner = _
  induction way with
  | nil => simp
  | cons other way ih =>
    rw [List.foldr_cons, Table.find?_set, ih]
    by_cases same : other = inner
    · simp [same]
    · simp [same, Ne.symm same]

/-- Sound answers with every yes earned. -/
structure SynthMemo.Fair (reg : Registry) (memo : SynthMemo) : Prop where
  sound : Sound reg memo
  earned : ∀ type, memo.synthesizable.find? type = some true → reg.Earned type

theorem SynthMemo.Fair.answers {reg : Registry} {memo : SynthMemo} (h : Fair reg memo) :
    reg.FairAnswers memo.synthesizable :=
  ⟨h.sound.aliased, h.sound.plain, h.earned⟩

namespace Registry

/-- The walk for an alias from a type. -/
def walkFrom (reg : Registry) (known : Table String Bool) (type : String) : WalkEnd :=
  match reg.type type with
  | .error e => .failed e
  | .ok decl => reg.walk known [type] (visits [] type decl.attrs)

variable {reg : Registry} {known : Table String Bool} {memo : SynthMemo} {type inner : String}
  {queries : List AliasQuery}

theorem explored_root (type : String) : reg.Explored [type] [type] :=
  fun _ mem _ => .inr mem

theorem walkFrom_of_type {decl : AnnotType} (found : reg.type type = .ok decl) :
    reg.walkFrom known type = reg.walk known [type] (visits [] type decl.attrs) := by
  rw [walkFrom, found]

theorem walkFrom_comesOut (fair : reg.FairAnswers known) (loopless : reg.Loopless type)
    {decl : AnnotType} (found : reg.type type = .ok decl) :
    reg.ComesOut type decl.attrs [type] (reg.walkFrom known type) := by
  rw [walkFrom_of_type found]
  exact walk_comesOut fair [] loopless found (List.Subset.refl _)
    ((explored_root type).clear (by simp) loopless)

theorem walkFrom_found {way : List String} (fair : reg.FairAnswers known)
    (h : reg.walkFrom known type = .found way) :
    ∀ other ∈ way, ReflTransGen reg.Nests type other ∧ reg.Earned other := by
  cases found : reg.type type with
  | error e =>
    rw [walkFrom, found] at h
    cases h
  | ok decl =>
    have leaves := walk_leaves fair found (List.Subset.refl _) (by simp) (explored_root type)
    have comes := fun loopless => walkFrom_comesOut fair loopless found
    rw [← walkFrom_of_type found, h] at leaves
    rw [h] at comes
    intro other mem
    rcases leaves other mem with same | ⟨way, earned⟩
    · rw [List.mem_singleton] at same
      subst same
      exact ⟨.refl, fun loopless => ⟨decl, found, comes loopless⟩⟩
    · exact ⟨way.to_reflTransGen, earned⟩

/-- An earned yes is what a walk from no answers finds. -/
theorem walkFrom_of_earned (earned : reg.Earned type) (loopless : reg.Loopless type) :
    (reg.walkFrom [] type).verdict = .ok true := by
  obtain ⟨decl, found, comes⟩ := earned loopless
  have comesOut := walkFrom_comesOut fairAnswers_nil loopless found
  cases ended : reg.walkFrom [] type with
  | failed e =>
    rw [ended] at comesOut
    cases comes.unique comesOut
  | found way => rfl
  | through seen =>
    rw [ended] at comesOut
    cases comes.unique comesOut.1

theorem walkFrom_of_plain (plain : reg.PlainWithin type) :
    (reg.walkFrom [] type).verdict = .ok false := by
  obtain ⟨decl, found, _⟩ := plain type .refl
  obtain ⟨seen, came, _⟩ := walk_plain fairAnswers_nil [type]
    (visits [] type decl.attrs) fun visit mem => by
      obtain ⟨attr, attrMem, rfl⟩ := List.mem_map.1 mem
      exact plain.at found attrMem
  rw [walkFrom_of_type found, came]
  rfl

theorem walkFrom_endsLike (fair : reg.FairAnswers known) (type : String) :
    reg.EndsLike known type (reg.walkFrom [] type) (reg.walkFrom known type) := by
  cases found : reg.type type with
  | error e =>
    rw [walkFrom, walkFrom, found]
    exact .failed e
  | ok decl =>
    rw [walkFrom_of_type found, walkFrom_of_type found]
    exact walk_endsLike fair found (List.Subset.refl _) (by simp) (explored_root type)
      fun other => .inr Iff.rfl

theorem aliasPath_computes (known : Table String Bool) (type : String) :
    Computes (fun memo => Sound reg memo ∧ Answers known memo) (reg.aliasPath type)
      (reg.walkFrom known type).answer := by
  intro memo kept
  rw [aliasPath, bind_apply, lift_apply, walkFrom]
  cases reg.type type with
  | error e => exact ⟨rfl, kept⟩
  | ok decl => exact findAlias_computes [type] (visits [] type decl.attrs) memo kept

theorem isSynthesizable_asked {answer : Bool} (hit : memo.synthesizable.find? type = some answer) :
    reg.isSynthesizable type memo = (.ok answer, memo) := by
  rw [isSynthesizable, bind_apply, get_apply]
  simp only [hit]
  rfl

/-- A type that is not answered yet is answered by a walk. -/
theorem isSynthesizable_unasked (sound : Sound reg memo)
    (unasked : memo.synthesizable.find? type = none) :
    (reg.isSynthesizable type memo).1 = (reg.walkFrom memo.synthesizable type).verdict ∧
      (reg.isSynthesizable type memo).2.synthesizable =
        (reg.walkFrom memo.synthesizable type).settle type memo.synthesizable := by
  obtain ⟨result, _, after⟩ := aliasPath_computes memo.synthesizable type memo ⟨sound, rfl⟩
  rw [isSynthesizable, bind_apply, get_apply]
  simp only [unasked, bind_apply, result]
  generalize (reg.aliasPath type memo).2 = memo' at after
  cases reg.walkFrom memo.synthesizable type with
  | failed e => exact ⟨rfl, after⟩
  | through seen => exact ⟨rfl, congrArg (Table.set · type false) after⟩
  | found way =>
    refine ⟨rfl, ?_⟩
    change (way.foldr (fun name found => found.markSynthesizable name true) memo').synthesizable = _
    induction way with
    | nil => exact after
    | cons other way ih => exact congrArg (Table.set · other true) ih

theorem isSynthesizable_first (type : String) :
    (reg.isSynthesizable type {}).1 = (reg.walkFrom [] type).verdict :=
  (isSynthesizable_unasked sound_empty rfl).1

/-- A question adds a yes only where it is answered yes itself, and only for types within the type it
is about. -/
theorem isSynthesizable_adds (fair : Fair reg memo)
    (kept : (reg.isSynthesizable type memo).2.synthesizable.find? inner = some true) :
    memo.synthesizable.find? inner = some true ∨ (reg.isSynthesizable type memo).1 = .ok true ∧
      ReflTransGen reg.Nests type inner ∧ reg.Earned inner := by
  cases asked : memo.synthesizable.find? type with
  | some answer =>
    rw [isSynthesizable_asked asked] at kept
    exact .inl kept
  | none =>
    obtain ⟨result, after⟩ := isSynthesizable_unasked fair.sound asked
    rw [after] at kept
    rw [result]
    cases ended : reg.walkFrom memo.synthesizable type with
    | failed e =>
      rw [ended] at kept
      exact .inl kept
    | through seen =>
      rw [ended, WalkEnd.settle, Table.find?_set] at kept
      split at kept
      · cases kept
      · exact .inl kept
    | found way =>
      rw [ended, find?_settle_found] at kept
      split at kept
      · exact .inr ⟨rfl, walkFrom_found fair.answers ended inner ‹_›⟩
      · exact .inl kept

/-- Of all questions only those about synthesizability add answers. -/
theorem ask_adds (fair : Fair reg memo) (query : AliasQuery)
    (kept : (reg.ask memo query).synthesizable.find? inner = some true) :
    memo.synthesizable.find? inner = some true ∨ reg.Earned inner ∧ ∃ other,
      query = .synthesizable other ∧ (reg.isSynthesizable other memo).1 = .ok true ∧
        ReflTransGen reg.Nests other inner := by
  have same := recalls_answers memo.synthesizable
  cases query with
  | link type attr => exact .inl (same.link reg type attr memo rfl ▸ kept)
  | aliasNames type attr => exact .inl (same.aliasNames reg type attr memo rfl ▸ kept)
  | aliasMap type => exact .inl (same.aliasMap reg type memo rfl ▸ kept)
  | overrideName type attr target =>
    exact .inl (same.overrideName reg type attr target memo rfl ▸ kept)
  | synthesizable other =>
    obtain before | ⟨yes, way, earned⟩ := isSynthesizable_adds fair kept
    · exact .inl before
    · exact .inr ⟨earned, other, rfl, yes, way⟩

theorem ask_sound (sound : Sound reg memo) (query : AliasQuery) : Sound reg (reg.ask memo query) := by
  cases query with
  | link type attr => exact (reg.recallLink_computes type attr memo sound).2
  | aliasNames type attr => exact (reg.recallAliasNames_computes type attr memo sound).2
  | aliasMap type => exact (reg.recallAliasMap_computes type memo sound).2
  | overrideName type attr target =>
    exact (reg.recallOverrideName_computes type attr target memo sound).2
  | synthesizable type => exact isSynthesizable_keeps type memo sound

theorem ask_fair (fair : Fair reg memo) (query : AliasQuery) : Fair reg (reg.ask memo query) where
  sound := ask_sound fair.sound query
  earned _ kept := (ask_adds fair query kept).elim (fair.earned _) fun added => added.1

theorem askAll_append_singleton (queries : List AliasQuery) (query : AliasQuery) :
    reg.askAll (queries ++ [query]) = reg.ask (reg.askAll queries) query := by
  rw [askAll, List.foldl_append]
  rfl

theorem askAll_fair (queries : List AliasQuery) : Fair reg (reg.askAll queries) := by
  induction queries using List.reverseRecOn with
  | nil => exact ⟨sound_empty, by simp [askAll]⟩
  | append_singleton queries query ih =>
    rw [askAll_append_singleton]
    exact ask_fair ih query

/-- An earlier question found an alias within a type that the given one is nested in. -/
def Learned (reg : Registry) (queries : List AliasQuery) (inner : String) : Prop :=
  ∃ before other after, queries = before ++ .synthesizable other :: after ∧
    (reg.isSynthesizable other (reg.askAll before)).1 = .ok true ∧
      ReflTransGen reg.Nests other inner

theorem askAll_learned (queries : List AliasQuery)
    (kept : (reg.askAll queries).synthesizable.find? inner = some true) :
    reg.Learned queries inner := by
  induction queries using List.reverseRecOn with
  | nil => simp [askAll] at kept
  | append_singleton queries query ih =>
    rw [askAll_append_singleton] at kept
    rcases ask_adds (askAll_fair queries) query kept with early | ⟨_, other, rfl, yes, way⟩
    · obtain ⟨before, other, after, rfl, rest⟩ := ih early
      exact ⟨before, other, after ++ [query], by simp, rest⟩
    · exact ⟨queries, other, [], rfl, yes, way⟩

/-- After other questions a type is answered as it would be first of all, or yes by way of a type with
a loop that is kept as aliased. -/
theorem isSynthesizable_later (fair : Fair reg memo) (type : String) :
    (reg.isSynthesizable type memo).1 = (reg.isSynthesizable type {}).1 ∨
      (reg.isSynthesizable type memo).1 = .ok true ∧ ∃ inner, ReflTransGen reg.Nests type inner ∧
        memo.synthesizable.find? inner = some true ∧ ¬ reg.Loopless inner := by
  rw [isSynthesizable_first]
  cases asked : memo.synthesizable.find? type with
  | some answer =>
    rw [isSynthesizable_asked asked]
    cases answer with
    | false => exact .inl (walkFrom_of_plain (fair.sound.plain type asked)).symm
    | true =>
      by_cases loopless : reg.Loopless type
      · exact .inl (walkFrom_of_earned (fair.earned type asked) loopless).symm
      · exact .inr ⟨rfl, type, .refl, asked, loopless⟩
  | none =>
    rw [(isSynthesizable_unasked fair.sound asked).1]
    have ends := walkFrom_endsLike fair.answers type
    generalize reg.walkFrom [] type = first at ends
    generalize reg.walkFrom memo.synthesizable type = later at ends
    cases ends with
    | failed e => exact .inl rfl
    | found way way' => exact .inl rfl
    | through same => exact .inl rfl
    | early way kept loops => exact .inr ⟨rfl, _, way.to_reflTransGen, kept, loops⟩

/-- Earlier questions turn no answer and no fault into another one, but for this: a fault within a type
becomes yes where an alias is declared within it too, and only if a type within it has a loop and
one of the questions found an alias around that. -/
theorem isSynthesizable_history (reg : Registry) (queries : List AliasQuery) (type : String) :
    (reg.isSynthesizable type (reg.askAll queries)).1 = (reg.isSynthesizable type {}).1 ∨
      (∃ e, (reg.isSynthesizable type {}).1 = .error e ∧ reg.FaultyWithin type e) ∧
        (reg.isSynthesizable type (reg.askAll queries)).1 = .ok true ∧ reg.AliasWithin type ∧
          ∃ inner, ReflTransGen reg.Nests type inner ∧ ¬ reg.Loopless inner ∧
            reg.Learned queries inner := by
  have fair : Fair reg (reg.askAll queries) := askAll_fair queries
  rcases isSynthesizable_later fair type with same | ⟨yes, inner, way, kept, loops⟩
  · exact .inl same
  have means := (isSynthesizable_means type _ fair.sound).2
  have first := (isSynthesizable_means type {} (sound_empty : Sound reg {})).2
  rw [yes] at means
  cases fresh : (reg.isSynthesizable type {}).1 with
  | ok answer => exact .inl (by rw [yes, isSynthesizable_agree fair.sound sound_empty yes fresh])
  | error e =>
    rw [fresh] at first
    exact .inr ⟨⟨e, rfl, first⟩, yes, means, inner, way, loops, askAll_learned queries kept⟩

section

open Vocabulary

/-- Shelves and books hold each other. An alias of the shelf aims at nothing; the book has two proper
aliases. -/
def shelves : Registry :=
  base.addTypes [
    ("test.Shelf", {
      attrs := [{ name := "book", type := .annot "test.Book" }, textAttr "bad" (pairedWith "missing")] }),
    ("test.Book", {
      attrs := [{ name := "shelf", type := .annot "test.Shelf" }, textAttr "name" (pairedWith "title"),
        textAttr "title" (pairedWith "name")] })]

/-- The book by itself fails over the shelf's alias. Asked from the shelf its own aliases are found
first, and the book is synthesizable from then on. -/
theorem fault_forgotten :
    (shelves.isSynthesizable "test.Book" {}).1 =
        .error (.aliasTargetMissing "test.Shelf" "bad" "test.Shelf" "missing") ∧
      (shelves.isSynthesizable "test.Book" (shelves.askAll [.synthesizable "test.Shelf"])).1 =
        .ok true ∧
      (shelves.isSynthesizable "test.Book" (shelves.askAll
        [.synthesizable "test.Book", .synthesizable "test.Shelf"])).1 = .ok true := by
  refine ⟨?_, ?_, ?_⟩
  · exact Outcome.error_of_map (f := fun _ => ()) (by with_unfolding_all decide)
  · with_unfolding_all rfl
  · with_unfolding_all rfl

end

/-! ## Meta-annotations -/

/-- A question leaves right answers. -/
theorem inquire_sound (sound : Sound reg memo) (query : MetaQuery) :
    Sound reg (reg.inquire memo query) := by
  cases query with
  | aliases query => exact ask_sound sound query
  | metaPresent type target => exact (reg.recallMetaPresent_computes type target memo sound).2

theorem inquireAll_sound (reg : Registry) (queries : List MetaQuery) :
    Sound reg (reg.inquireAll queries) := by
  induction queries using List.reverseRecOn with
  | nil => exact sound_empty
  | append_singleton queries query ih =>
    rw [inquireAll, List.foldl_append]
    exact inquire_sound ih query

/-- Whatever was asked before: the question whether a meta-annotation is present has an answer, and it
is yes exactly if a chain of one or more annotations on annotation types leads from the one type to the
other. All types on the chain but the last are registered, and the last may be the first. -/
theorem recallMetaPresent_exact (reg : Registry) (queries : List MetaQuery) (type target : String) :
    ∃ present, (reg.recallMetaPresent type target (reg.inquireAll queries)).1 = .ok present ∧
      (present = true ↔ TransGen reg.BearsMeta type target) := by
  have answers := reg.recallMetaPresent_computes type target _ (reg.inquireAll_sound queries)
  exact ⟨_, answers.1, isMetaPresent_iff_transGen⟩

end Registry
end Annotations
