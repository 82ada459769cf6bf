import Annotations.Proofs.Alias.Replays
import Annotations.Proofs.Engine.Trails
import Annotations.Proofs.Search.Ledger
import Annotations.Proofs.Store.Columns
import Annotations.Vocabulary.Web

/-!
The attributes of all annotations of a type. The annotations that a get search meets are rows of what
is collected, in the order in which they are met: each adds the whole of its store, or nothing where it
has none, and so all columns are of one length.
-/
namespace Annotations

open Annotations.Action SynthMemo Registry

/-- An annotation that was met on an element, with its attributes. -/
structure Row where
  element : Element
  annot : Annot
  store : Store

namespace Registry

variable {reg : Registry} {rendering : Rendering} {element : Element} {annot : Annot}

/-- Of annotations that were met one after another, those that have attributes are the rows. -/
inductive Collects (reg : Registry) (rendering : Rendering) : List (Element × Annot) → List Row → Prop
  | nil : Collects reg rendering [] []
  | row {element : Element} {annot : Annot} {store : Store} {met : List (Element × Annot)}
      {rows : List Row} :
      Yields (Sound reg) (reg.annotAttributes element rendering annot) (.ok store) →
      Collects reg rendering met rows →
      Collects reg rendering ((element, annot) :: met) (⟨element, annot, store⟩ :: rows)
  | failed {element : Element} {annot : Annot} {e : Error} {met : List (Element × Annot)}
      {rows : List Row} :
      Yields (Sound reg) (reg.annotAttributes element rendering annot) (.error e) →
      Collects reg rendering met rows → Collects reg rendering ((element, annot) :: met) rows

namespace Collects

variable {met met' : List (Element × Annot)} {rows rows' : List Row}

theorem append (h : reg.Collects rendering met rows) (h' : reg.Collects rendering met' rows') :
    reg.Collects rendering (met ++ met') (rows ++ rows') := by
  induction h with
  | nil => exact h'
  | row made _ ih => exact .row made ih
  | failed failed _ ih => exact .failed failed ih

theorem made (h : reg.Collects rendering met rows) :
    ∀ row ∈ rows, Yields (Sound reg) (reg.annotAttributes row.element rendering row.annot)
      (.ok row.store) := by
  induction h with
  | nil => simp
  | row made _ ih => exact List.forall_mem_cons.2 ⟨made, ih⟩
  | failed _ _ ih => exact ih

end Collects

/-- A row's store is what its annotation has from now on. -/
def Replayed (reg : Registry) (rendering : Rendering) (memo : SynthMemo) (row : Row) : Prop :=
  ∀ later, Sound reg later → memo.Within later →
    (reg.annotAttributes row.element rendering row.annot later).1 = .ok row.store

/-- The stores of rows as one collection, none where there is no row. -/
def tabulate (rows : List Row) : Option MultiStore :=
  rows.foldl (fun found row => some ((found.getD {}).addAll row.store)) none

@[simp] theorem tabulate_append (rows : List Row) (row : Row) :
    tabulate (rows ++ [row]) = some (((tabulate rows).getD {}).addAll row.store) :=
  List.foldl_concat ..

theorem tabulate_eq_none_iff {rows : List Row} : tabulate rows = none ↔ rows = [] := by
  rcases List.eq_nil_or_concat rows with rfl | ⟨rest, last, rfl⟩
  · exact iff_of_true rfl rfl
  · simp

/-- Stores that are laid out alike make columns of one length. -/
theorem tabulate_aligned {heads : List String} (distinct : heads.Nodup) {rows : List Row}
    (laid : ∀ row ∈ rows, row.store.names = heads) {all : MultiStore}
    (h : tabulate rows = some all) : all.Aligned heads (rows.map (·.store)) := by
  induction rows using List.reverseRecOn generalizing all with
  | nil => cases h
  | append_singleton rows row ih =>
    obtain rfl : row.store.names = heads := laid row (by simp)
    rw [tabulate_append] at h
    cases h
    cases before : tabulate rows with
    | none =>
      cases tabulate_eq_none_iff.1 before
      exact .first distinct
    | some table =>
      have aligned := ih (fun other mem => laid other (List.mem_append_left _ mem)) before
      rw [List.map_append]
      exact aligned.addAll distinct

end Registry

/-- An annotation of a type that was handed over as a candidate, with its element. -/
def Given.candidateOf (type : String) : Given → Option (Element × Annot)
  | .candidate element annot _ => if annot.type = type then some (element, annot) else none
  | .passed _ _ => none

/-- What collecting has come to: a row for each candidate so far that has attributes. -/
structure Collected (reg : Registry) (type : String) (rendering : Rendering)
    (state : (SynthMemo × Option MultiStore) × List Given) (rows : List Row) : Prop where
  sound : Sound reg state.1.1
  collects : reg.Collects rendering (state.2.filterMap (Given.candidateOf type)) rows
  replayed : ∀ row ∈ rows, reg.Replayed rendering state.1.1 row
  own : ∀ row ∈ rows, row.annot.type = type
  table : state.1.2 = tabulate rows

namespace Collected

variable {reg : Registry} {type : String} {rendering : Rendering}

theorem start {memo : SynthMemo} (sound : Sound reg memo) :
    Collected reg type rendering ((memo, none), []) [] where
  sound := sound
  collects := .nil
  replayed := by simp
  own := by simp
  table := rfl

/-- A candidate adds a whole row, or none where it is of another type or has no attributes. -/
theorem step (element : Element) (annot : Annot) (depth : Nat) :
    Keeps (fun state => ∃ rows, Collected reg type rendering state rows)
      ((collectAll reg type rendering).logging.process element annot depth) := by
  rintro ⟨⟨memo, found⟩, log⟩ ⟨rows, h⟩
  obtain ⟨sound, collects, replayed, own, table⟩ := h
  have replays := reg.asked_replays.annotAttributes element rendering annot
  have after := replays.keeps memo sound
  have within := replays.within memo sound
  have still : ∀ row ∈ rows,
      reg.Replayed rendering (reg.annotAttributes element rendering annot memo).2 row :=
    fun row mem later right kept => replayed row mem later right (within.trans kept)
  simp only [Processor.logging, Action.beside, collectAll]
  by_cases same : annot.type = type
  case neg =>
    rw [if_neg (by simpa using same)]
    refine ⟨rows, sound, ?_, replayed, own, table⟩
    simpa [Given.candidateOf, same] using collects
  case pos =>
    rw [if_pos (by simpa using same)]
    have met : (log ++ [Given.candidate element annot depth]).filterMap (Given.candidateOf type) =
        log.filterMap (Given.candidateOf type) ++ [(element, annot)] := by
      simp [Given.candidateOf, same]
    have stays := replays.ok memo
    have yields : Yields (Sound reg) (reg.annotAttributes element rendering annot)
        (reg.annotAttributes element rendering annot memo).1 := ⟨memo, sound, rfl⟩
    generalize reg.annotAttributes element rendering annot memo = ends at after still stays yields ⊢
    obtain ⟨_ | store, memo'⟩ := ends
    · refine ⟨rows, after, ?_, still, own, table⟩
      rw [met, ← List.append_nil rows]
      exact collects.append (.failed yields .nil)
    · refine ⟨rows ++ [⟨element, annot, store⟩], after, ?_, ?_, ?_, ?_⟩
      · rw [met]
        exact collects.append (.row yields .nil)
      · refine List.forall_mem_append.2 ⟨still, List.forall_mem_singleton.2 ?_⟩
        exact fun later right kept => (stays store sound rfl later right kept).1
      · exact List.forall_mem_append.2 ⟨own, List.forall_mem_singleton.2 same⟩
      · rw [tabulate_append, ← table]

/-- A result on its way back adds no row. -/
theorem back (element : Element) (annot : Annot) (result : Unit) :
    Keeps (fun state => ∃ rows, Collected reg type rendering state rows)
      ((collectAll reg type rendering).logging.postProcess element annot result) := by
  rintro ⟨⟨memo, found⟩, log⟩ ⟨rows, h⟩
  refine ⟨rows, h.sound, ?_, h.replayed, h.own, h.table⟩
  change reg.Collects rendering ((log ++ [Given.passed element annot]).filterMap _) rows
  rw [List.filterMap_append]
  exact (List.append_nil _).symm ▸ h.collects

end Collected

namespace Engine

variable {engine : Engine} {type : String} {decl : AnnotType}

/-- The processor with which an engine collects attributes, and what its search starts with. -/
def collector (engine : Engine) (type : String) : Processor (SynthMemo × Option MultiStore) Unit :=
  collectAll engine.reg type engine.settings.rendering

def collectorWalk (state : EngineState) : Walk (SynthMemo × Option MultiStore) where
  interfaces := state.caches.interfaces
  events := state.events
  state := (state.memo, none)

/-- The annotations of a type that the search for all of them meets, one after another. -/
def met (engine : Engine) (element : Element) (type : String) (state : EngineState) :
    List (Element × Annot) :=
  (engine.search.searchFrom .get type (engine.collector type).logging element 0
    ((collectorWalk state).keeping [])).2.state.2.filterMap (Given.candidateOf type)

theorem getAllAttributes_apply (engine : Engine) (element : Element) (type : String)
    (s : EngineState) :
    let ends := engine.search.searchFrom .get type (engine.collector type) element 0 (collectorWalk s)
    (engine.getAllAttributes element type s).1 = ends.1.map (fun _ => ends.2.state.2) ∧
      (engine.getAllAttributes element type s).2.memo = ends.2.state.1 := by
  simp only [getAllAttributes, searchingWith, bind_apply, collector, collectorWalk]
  generalize engine.search.searchFrom .get type _ element 0 _ = ends
  obtain ⟨_ | _, walk⟩ := ends
  · exact ⟨rfl, rfl⟩
  · exact ⟨rfl, rfl⟩

/-- What is collected are the stores of those annotations that the search meets and that have one, each as
it is given for the annotation right afterwards. -/
theorem getAllAttributes_found {element : Element} {s : EngineState} {all : MultiStore}
    (sensible : s.Sensible engine.reg)
    (h : (engine.getAllAttributes element type s).1 = .ok (some all)) :
    ∃ rows, engine.reg.Collects engine.settings.rendering (engine.met element type s) rows ∧
      (∀ row ∈ rows, row.annot.type = type) ∧ tabulate rows = some all ∧
      ∀ row ∈ rows, (engine.annotAttributes row.element row.annot engine.settings.rendering
        (engine.getAllAttributes element type s).2).1 = .ok row.store := by
  have start : ∃ rows, Collected engine.reg type engine.settings.rendering
      ((collectorWalk s).keeping ([] : List Given)).state rows := ⟨[], .start sensible.memo⟩
  obtain ⟨rows, collected⟩ : ∃ rows, Collected engine.reg type engine.settings.rendering
      (engine.search.searchFrom .get type (engine.collector type).logging element 0
        ((collectorWalk s).keeping [])).2.state rows :=
    Search.searchFrom_keeps Collected.step Collected.back element 0 sensible.interfaces start
  have collects : engine.reg.Collects engine.settings.rendering (engine.met element type s) rows :=
    collected.collects
  obtain ⟨_, _, log, logged, _⟩ := engine.search.searchFrom_expands_once .get type
    (engine.collector type) (fun _ _ => pure none) element 0 (collectorWalk s)
  obtain ⟨found, memo⟩ := engine.getAllAttributes_apply element type s
  rw [logged] at collected
  rw [found] at h
  refine ⟨rows, collects, collected.own, collected.table.symm.trans ?_, fun row mem => ?_⟩
  case refine_2 =>
    have again := collected.replayed row mem _ collected.sound (.refl _)
    simp only [annotAttributes, withMemo, memo]
    exact again
  generalize engine.search.searchFrom .get type (engine.collector type) element 0 _ = ends at h ⊢
  obtain ⟨_ | _, walk⟩ := ends
  · cases h
  · exact Except.ok.inj h

/-- All attributes of a type are columns of one length: some number of annotations of the type, in the
order in which a get search meets them, each give one value to every column, which is the value that is
given for this annotation alone, then and whenever there is one. -/
theorem collected_in_columns (known : engine.reg.type type = .ok decl)
    (distinct : (decl.attrs.map (·.name)).Nodup) (calls : List Call) (element : Element)
    (all : MultiStore)
    (h : (engine.getAllAttributes element type (engine.run calls {}).2).1 = .ok (some all)) :
    ∃ rows : List Row, rows ≠ [] ∧
      engine.reg.Collects engine.settings.rendering
        (engine.met element type (engine.run calls {}).2) rows ∧
      (∀ row ∈ rows, row.annot.type = type) ∧
      all.Aligned (decl.attrs.map (·.name)) (rows.map (·.store)) ∧
      ∀ row ∈ rows,
        (engine.annotAttributes row.element row.annot engine.settings.rendering
          (engine.getAllAttributes element type (engine.run calls {}).2).2).1 = .ok row.store ∧
        ∀ calls' store,
          (engine.annotAttributes row.element row.annot engine.settings.rendering
            (engine.run calls' {}).2).1 = .ok store → store = row.store := by
  have sensible := engine.run_sensible calls
  obtain ⟨rows, collects, own, table, now⟩ := getAllAttributes_found sensible h
  have laid : ∀ row ∈ rows, row.store.names = decl.attrs.map (·.name) := fun row mem =>
    (annotAttributes_laid (own row mem ▸ known) distinct (collects.made row mem)).2
  refine ⟨rows, ?some, collects, own, tabulate_aligned distinct laid table,
    fun row mem => ⟨now row mem, ?ever⟩⟩
  case some =>
    intro empty
    rw [tabulate_eq_none_iff.2 empty] at table
    cases table
  case ever =>
    intro calls' store given
    exact (engine.reg.asked_replays.annotAttributes row.element engine.settings.rendering
      row.annot).ok_unique ⟨_, (engine.run_sensible calls').memo, given⟩ (collects.made row mem)

/-- A repository has its transactions from a meta-annotation and, inherited, from its superclass: two
rows, of which the timeouts are a column. -/
theorem web_collected_in_columns :
    (∃ decl, Registry.web.type "web.Transactional" = .ok decl ∧
      (decl.attrs.map (·.name)).Nodup) ∧
    ∃ all rows, (Engine.web.getAllAttributes (.classLike "app.UserRepository") "web.Transactional"
        (Engine.web.run [.isSynthesizable "web.TxService"] {}).2).1 = .ok (some all) ∧
      rows ≠ [] ∧ all.Aligned ["timeout", "read_only"] rows ∧
      all.get? "timeout" = some [.long 5, .long 10] := by
  obtain ⟨decl, known, names⟩ : ∃ decl, Registry.web.type "web.Transactional" = .ok decl ∧
      decl.attrs.map (·.name) = ["timeout", "read_only"] := ⟨_, rfl, rfl⟩
  have distinct : (decl.attrs.map (·.name)).Nodup := by
    rw [names]
    decide
  have all := @collected_in_columns Engine.web "web.Transactional" decl known distinct
    [.isSynthesizable "web.TxService"] (.classLike "app.UserRepository")
  have found : (Engine.web.getAllAttributes (.classLike "app.UserRepository") "web.Transactional"
      (Engine.web.run [.isSynthesizable "web.TxService"] {}).2).1.toOption.join.bind
        (·.get? "timeout") = some [.long 5, .long 10] := by
    with_unfolding_all rfl
  refine ⟨⟨decl, known, distinct⟩, ?_⟩
  generalize Engine.web.getAllAttributes _ _ _ = ends at all found ⊢
  match ends with
  | (.error _, _) => cases found
  | (.ok none, _) => cases found
  | (.ok (some table), _) =>
    obtain ⟨rows, some, _, _, aligned, _⟩ := all table rfl
    exact ⟨table, rows.map (·.store), rfl, by simpa using some, names ▸ aligned, found⟩

end Engine
end Annotations
