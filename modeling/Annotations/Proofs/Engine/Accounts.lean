import Annotations.Proofs.Engine.Asides
import Annotations.Proofs.Metrics.Tally
import Mathlib.Data.Set.Card

/-!
The accounts of the tables of results. Every merge that is asked for, alone or on the way to a view
or a record, and every search for an annotation is one look-up: a hit if an earlier look-up with the
same key has ended without error since the tables were last emptied, else a miss. The tables hold
the keys of those, and the counters show the same numbers.
-/
namespace Annotations

open Annotations.Action

namespace Table

variable {κ ν : Type} [DecidableEq κ]

def keys (table : Table κ ν) : List κ := table.map Prod.fst

theorem mem_keys {table : Table κ ν} {key : κ} : key ∈ table.keys ↔ (table.find? key).isSome := by
  induction table with
  | nil => simp [keys]
  | cons entry rest ih =>
    obtain ⟨other, value⟩ := entry
    by_cases same : other = key
    · simp [keys, find?, same]
    · simpa [keys, find?, same, Ne.symm same] using ih

theorem keys_set (table : Table κ ν) (key : κ) (value : ν) :
    (table.set key value).keys = if key ∈ table.keys then table.keys else table.keys ++ [key] := by
  induction table with
  | nil => simp [keys, set]
  | cons entry rest ih =>
    obtain ⟨other, old⟩ := entry
    by_cases same : other = key
    · simp [keys, set, same]
    · simp only [keys] at ih
      by_cases mem : key ∈ rest.map Prod.fst
      · simp [keys, set, same, Ne.symm same, ih, mem]
      · simp [keys, set, same, Ne.symm same, ih, mem]

theorem nodup_keys_set {table : Table κ ν} (h : table.keys.Nodup) (key : κ) (value : ν) :
    (table.set key value).keys.Nodup := by
  rw [keys_set]
  split
  · exact h
  · rename_i fresh
    refine List.nodup_append.2 ⟨h, List.nodup_singleton key, fun other mem other' mem' same => ?_⟩
    exact fresh (List.mem_singleton.1 mem' ▸ same ▸ mem)

end Table

/-- What a request looks up among the results. -/
inductive Lookup where
  | merged (key : MergeKey)
  | found (element : Element) (type : String)
deriving DecidableEq

def Request.lookup? (settings : Settings) : Request → Option Lookup
  | .call (.getMerged element type) => some (.merged ⟨.get, element, type, settings.rendering⟩)
  | .call (.findMerged element type) => some (.merged ⟨.find, element, type, settings.rendering⟩)
  | .call (.getMergedWith element type rendering) => some (.merged ⟨.get, element, type, rendering⟩)
  | .call (.findMergedWith element type rendering) => some (.merged ⟨.find, element, type, rendering⟩)
  | .call (.getMergedView element type) => some (.merged ⟨.get, element, type, .raw⟩)
  | .call (.findMergedView element type) => some (.merged ⟨.find, element, type, .raw⟩)
  | .call (.findAnnot element type) => some (.found element type)
  | .mergedAs kind element schema => some (.merged ⟨kind, element, schema.name, .raw⟩)
  | _ => none

def Request.clears : Request → Bool
  | .call .clearCaches => true
  | _ => false

/-- What a request was to the tables of results. -/
inductive Turn where
  | lookup (what : Lookup) (finished : Bool)
  | clear
  | other
deriving DecidableEq

namespace Turn

def isLookup : Turn → Bool
  | .lookup _ _ => true
  | _ => false

/-- Whether a look-up has ended without error since the tables were emptied, by the turns so far,
latest first. -/
def known (what : Lookup) : List Turn → Bool
  | [] => false
  | .lookup asked finished :: earlier => (finished && asked == what) || known what earlier
  | .clear :: _ => false
  | .other :: earlier => known what earlier

theorem known_iff {what : Lookup} {past : List Turn} :
    known what past = true ↔
      ∃ recent earlier, past = recent ++ .lookup what true :: earlier ∧ .clear ∉ recent := by
  induction past with
  | nil => simp [known]
  | cons turn rest ih =>
    have behind (plain : turn ≠ .clear) (other : turn ≠ .lookup what true) :
        (∃ recent earlier, rest = recent ++ .lookup what true :: earlier ∧ .clear ∉ recent) ↔
          ∃ recent earlier, turn :: rest = recent ++ .lookup what true :: earlier ∧
            .clear ∉ recent := by
      constructor
      · rintro ⟨recent, earlier, rfl, open'⟩
        exact ⟨turn :: recent, earlier, rfl, by simp [open', Ne.symm plain]⟩
      · rintro ⟨recent, earlier, same, open'⟩
        cases recent with
        | nil =>
          cases same
          exact absurd rfl other
        | cons first recent =>
          cases same
          exact ⟨recent, earlier, rfl, fun mem => open' (.tail _ mem)⟩
    cases turn with
    | clear =>
      constructor
      · intro found
        cases found
      · rintro ⟨recent, earlier, same, open'⟩
        cases recent with
        | nil => cases same
        | cons first recent =>
          cases same
          exact absurd (.head _) open'
    | other => exact Iff.trans ih (behind (by simp) (by simp))
    | lookup what' finished =>
      by_cases same : Turn.lookup what' finished = .lookup what true
      · cases same
        exact ⟨fun _ => ⟨[], rest, rfl, by simp⟩, fun _ => by simp [known]⟩
      · refine Iff.trans ?_ (behind (by simp) same)
        rw [← ih]
        simp only [known, Bool.or_eq_true, Bool.and_eq_true, beq_iff_eq]
        refine ⟨fun found => found.resolve_left fun both => same ?_, .inr⟩
        rw [both.1, both.2]

/-- How many look-ups were hits, or misses. -/
def count (hit : Bool) : List Turn → Nat
  | [] => 0
  | .lookup what _ :: earlier => (if known what earlier = hit then 1 else 0) + count hit earlier
  | _ :: earlier => count hit earlier

theorem count_add_count (past : List Turn) :
    count true past + count false past = past.countP isLookup := by
  induction past with
  | nil => rfl
  | cons turn earlier ih =>
    cases turn with
    | lookup what finished =>
      rw [List.countP_cons_of_pos rfl, ← ih]
      cases h : known what earlier <;> simp [count, h] <;> omega
    | clear => simpa [count, isLookup] using ih
    | other => simpa [count, isLookup] using ih

end Turn

namespace Engine

/-- The look-up by itself, without what a request does with the result. -/
def look (engine : Engine) : Lookup → Action EngineState Unit
  | .merged key => (fun _ => ()) <$> engine.merged key
  | .found element type => (fun _ => ()) <$> engine.findRaw element type

def turn (engine : Engine) (request : Request) (state : EngineState) : Turn :=
  match request.lookup? engine.settings with
  | some what => .lookup what (engine.look what state).1.isOk
  | none => if request.clears then .clear else .other

/-- The state that requests, latest first, have left of a new engine. -/
def after (engine : Engine) : List Request → EngineState
  | [] => {}
  | request :: earlier => (engine.serve request (engine.after earlier)).2

/-- The turns of requests, both latest first. -/
def turns (engine : Engine) : List Request → List Turn
  | [] => []
  | request :: earlier => engine.turn request (engine.after earlier) :: engine.turns earlier

end Engine

/-- What counts and counters say of the look-ups so far. -/
structure Turn.Accounted (past : List Turn) (state : EngineState) : Prop where
  lookups : state.caches.stats.hits + state.caches.stats.misses = past.countP isLookup
  hits : state.caches.stats.hits = count true past
  misses : state.caches.stats.misses = count false past
  mergedEntries : state.caches.stats.mergedEntries = {key | known (.merged key) past = true}.ncard
  foundEntries : state.caches.stats.foundEntries =
    {key : Element × String | known (.found key.1 key.2) past = true}.ncard
  shownHits : Metrics.shown (.lookup .merged true) state.events +
    Metrics.shown (.lookup .found true) state.events = state.caches.stats.hits
  shownMisses : Metrics.shown (.lookup .merged false) state.events +
    Metrics.shown (.lookup .found false) state.events = state.caches.stats.misses

namespace Ledger

/-- One more look-up. -/
def count (ledger : Ledger) (cache : CacheName) (hit : Bool) : Ledger :=
  { ledger with
    hits := if hit then ledger.hits + 1 else ledger.hits
    misses := if hit then ledger.misses else ledger.misses + 1
    events := .lookup cache hit :: ledger.events }

end Ledger

/-- The same while a run goes on, over the ledger. -/
structure Turn.Books (past : List Turn) (ledger : Ledger) : Prop where
  hits : ledger.hits = count true past
  misses : ledger.misses = count false past
  merged : ∀ key, (ledger.merged.find? key).isSome = known (.merged key) past
  found : ∀ key, (ledger.found.find? key).isSome = known (.found key.1 key.2) past
  mergedKeys : ledger.merged.keys.Nodup
  foundKeys : ledger.found.keys.Nodup
  shown : ∀ hit,
    ledger.events.count (.lookup .merged hit) + ledger.events.count (.lookup .found hit) =
      count hit past

namespace Turn.Books

variable {past : List Turn} {ledger : Ledger} {what : Lookup}

/-- A look-up that is counted as the turns so far say, of which nothing is new in the tables. -/
theorem counted (h : Books past ledger) {cache : CacheName}
    (ofResults : cache = .merged ∨ cache = .found) (what : Lookup) (finished : Bool)
    (old : finished = true → known what past = true) :
    Books (.lookup what finished :: past) (ledger.count cache (known what past)) := by
  have still (other : Lookup) : known other past = known other (.lookup what finished :: past) := by
    simp only [known]
    by_cases same : what = other
    · subst same
      cases finished with
      | false => simp
      | true => simp [old rfl]
    · simp [same]
  refine ⟨?_, ?_, fun key => (h.merged key).trans (still _), fun key => (h.found key).trans (still _),
    h.mergedKeys, h.foundKeys, fun hit => ?_⟩
  · simp only [Ledger.count, count, h.hits]
    cases known what past <;> simp [Nat.add_comm]
  · simp only [Ledger.count, count, h.misses]
    cases known what past <;> simp [Nat.add_comm]
  · have before := h.shown hit
    simp only [Ledger.count, count, List.count_cons]
    rcases ofResults with rfl | rfl <;> cases known what past <;> cases hit <;>
      simp <;> omega

theorem stored_merged {key : MergeKey}
    (h : Books (.lookup (.merged key) false :: past) ledger) (result : Option Store) :
    Books (.lookup (.merged key) true :: past)
      { ledger with merged := ledger.merged.set key result } where
  hits := h.hits
  misses := h.misses
  merged other := by
    have before := h.merged other
    simp only [known, Bool.false_and, Bool.false_or] at before
    rw [Table.find?_set]
    by_cases same : key = other
    · simp [known, same]
    · simp [known, same, before]
  found other := by
    have apart : (Lookup.merged key == .found other.1 other.2) = false := beq_eq_false_iff_ne.2 nofun
    simpa [known, apart] using h.found other
  mergedKeys := Table.nodup_keys_set h.mergedKeys key result
  foundKeys := h.foundKeys
  shown := h.shown

theorem stored_found (key : Element × String)
    (h : Books (.lookup (.found key.1 key.2) false :: past) ledger) (result : Option Annot) :
    Books (.lookup (.found key.1 key.2) true :: past)
      { ledger with found := ledger.found.set key result } where
  hits := h.hits
  misses := h.misses
  merged other := by
    have apart : (Lookup.found key.1 key.2 == .merged other) = false := beq_eq_false_iff_ne.2 nofun
    simpa [known, apart] using h.merged other
  found other := by
    have before := h.found other
    simp only [known, Bool.false_and, Bool.false_or] at before
    rw [Table.find?_set]
    by_cases same : key = other
    · simp [known, same]
    · have apart : ¬ (key.1 = other.1 ∧ key.2 = other.2) := fun both => same (Prod.ext both.1 both.2)
      simp [known, same, apart, before]
  mergedKeys := h.mergedKeys
  foundKeys := Table.nodup_keys_set h.foundKeys key result
  shown := h.shown

theorem other (h : Books past ledger) : Books (.other :: past) ledger :=
  ⟨h.hits, h.misses, h.merged, h.found, h.mergedKeys, h.foundKeys, h.shown⟩

theorem cleared (h : Books past ledger) :
    Books (.clear :: past) { ledger with merged := [], found := [] } :=
  ⟨h.hits, h.misses, fun _ => rfl, fun _ => rfl, List.nodup_nil, List.nodup_nil, h.shown⟩

theorem fresh : Books [] {} :=
  ⟨rfl, rfl, fun _ => rfl, fun _ => rfl, List.nodup_nil, List.nodup_nil, fun _ => rfl⟩

end Turn.Books

open Turn

theorem EngineState.lookedUp_ledger (state : EngineState) {cache : CacheName}
    (ofResults : cache = .merged ∨ cache = .found) (hit : Bool) :
    (state.lookedUp cache hit).ledger = state.ledger.count cache hit := by
  rcases ofResults with rfl | rfl <;> cases hit <;> rfl

namespace Engine

variable {engine : Engine}

/-- How a look-up ends where results are kept: with what is there, with a failure, or with a new
result that is put there. -/
theorem remember_cases {κ ν : Type} [DecidableEq κ] (keeps : engine.settings.cacheEnabled = true)
    (part : Caches.Part κ ν) (key : κ) {find : Action EngineState ν} (aside : Aside find)
    (s : EngineState) :
    (∃ known, (part.read s.caches).find? key = some known ∧
      engine.remember part key find s = (.ok known, s.lookedUp part.name true)) ∨
    (part.read s.caches).find? key = none ∧ ∃ after : EngineState,
      after.ledger = (s.lookedUp part.name false).ledger ∧
      ((∃ e, engine.remember part key find s = (.error e, after)) ∨
        ∃ result, engine.remember part key find s = (.ok result,
          { after with
            caches := part.write after.caches ((part.read after.caches).set key result) })) := by
  unfold remember
  simp only [keeps, if_true, bind_apply, get_apply]
  cases hit : (part.read s.caches).find? key with
  | some known => exact .inl ⟨known, rfl, rfl⟩
  | none =>
    refine .inr ⟨rfl, (find (s.lookedUp part.name false)).2, aside _, ?_⟩
    simp only [bind_apply, modify_apply]
    generalize find (s.lookedUp part.name false) = ends
    obtain ⟨e | result, after⟩ := ends
    · exact .inl ⟨e, rfl⟩
    · exact .inr ⟨result, rfl⟩

/-- A look-up through a table of results is booked, if a new result is. -/
theorem remember_books {κ ν : Type} [DecidableEq κ] (keeps : engine.settings.cacheEnabled = true)
    {part : Caches.Part κ ν} {key : κ} {find : Action EngineState ν} {what : Lookup}
    (ofResults : part.name = .merged ∨ part.name = .found) (aside : Aside find)
    {past : List Turn} {s : EngineState} (h : Books past s.ledger)
    (there : ((part.read s.caches).find? key).isSome = known what past)
    (stored : ∀ (after : EngineState) result, Books (.lookup what false :: past) after.ledger →
      Books (.lookup what true :: past) (EngineState.ledger { after with
        caches := part.write after.caches ((part.read after.caches).set key result) })) :
    Books (.lookup what (engine.remember part key find s).1.isOk :: past)
      (engine.remember part key find s).2.ledger := by
  rcases remember_cases keeps part key aside s with
    ⟨result, hit, ends⟩ | ⟨miss, after, ledger, ended⟩
  · have there : known what past = true := by rw [← there, hit, Option.isSome_some]
    have booked := h.counted ofResults what true fun _ => there
    rw [there, ← EngineState.lookedUp_ledger s ofResults] at booked
    rw [ends]
    exact booked
  · have there : known what past = false := by rw [← there, miss, Option.isSome_none]
    have booked := h.counted ofResults what false nofun
    rw [there, ← EngineState.lookedUp_ledger s ofResults, ← ledger] at booked
    rcases ended with ⟨e, ends⟩ | ⟨result, ends⟩
    · rw [ends]
      exact booked
    · rw [ends]
      exact stored after result booked

theorem look_books (keeps : engine.settings.cacheEnabled = true) {past : List Turn}
    {s : EngineState} (h : Books past s.ledger) (what : Lookup) :
    Books (.lookup what (engine.look what s).1.isOk :: past) (engine.look what s).2.ledger := by
  have through {α : Type} (f : Action EngineState α) :
      (((fun _ => ()) <$> f) s).1.isOk = (f s).1.isOk ∧ (((fun _ => ()) <$> f) s).2 = (f s).2 := by
    rw [map_apply]
    cases (f s).1 <;> exact ⟨rfl, rfl⟩
  cases what with
  | merged key =>
    unfold look
    rw [(through _).1, (through _).2]
    exact remember_books keeps (.inl rfl) (engine.mergeAnew_aside key) h (h.merged key)
      fun after result booked => booked.stored_merged result
  | found element type =>
    unfold look
    rw [(through _).1, (through _).2]
    exact remember_books keeps (.inr rfl) (engine.findAnew_aside element type) h
      (h.found (element, type)) fun after result booked =>
        booked.stored_found (element, type) result

variable {request : Request}

/-- A request that looks something up leaves the ledger as the look-up has. -/
theorem serve_ledger {what : Lookup} (asks : request.lookup? engine.settings = some what)
    (s : EngineState) : (engine.serve request s).2.ledger = (engine.look what s).2.ledger := by
  have mapped {α β : Type} (g : α → β) (f : Action EngineState α) :
      ((g <$> f) s).2.ledger = (f s).2.ledger := by
    rw [map_apply]
  have view (kind : SearchKind) (element : Element) (type : String) :
      (engine.mergedView kind element type s).2.ledger =
        (engine.merged ⟨kind, element, type, .raw⟩ s).2.ledger := by
    refine Aside.after (fun found => ?_) s
    cases found with
    | none => exact Aside.closed.pure none
    | some store => exact Aside.closed.map some (withMemo_aside _)
  have record (kind : SearchKind) (element : Element) (schema : Schema) :
      (engine.mergedAs kind element schema s).2.ledger =
        (engine.mergedView kind element schema.name s).2.ledger := by
    refine Aside.after (fun found => ?_) s
    cases found with
    | none => exact Aside.closed.pure none
    | some view =>
      refine Aside.closed.bind (withMemo_aside _) fun store => ?_
      exact Aside.closed.bind (Aside.closed.lift _) fun record => Aside.closed.pure (some record)
  have annot (element : Element) (type : String) :
      (engine.findAnnot element type s).2.ledger = (engine.findRaw element type s).2.ledger :=
    Aside.after (fun found => engine.synthesizeAnnot_aside found (some element)) s
  cases request with
  | call call =>
    refine (mapped _ _).trans ?_
    cases call with
    | getMerged | findMerged | getMergedWith | findMergedWith =>
      cases asks
      exact (mapped _ _).trans (mapped _ _).symm
    | getMergedView | findMergedView =>
      cases asks
      exact (mapped _ _).trans ((view _ _ _).trans (mapped _ _).symm)
    | findAnnot =>
      cases asks
      exact (mapped _ _).trans ((annot _ _).trans (mapped _ _).symm)
    | _ => cases asks
  | mergedAs kind element schema =>
    cases asks
    exact (mapped _ _).trans ((record _ _ _).trans ((view _ _ _).trans (mapped _ _).symm))
  | synthesize => cases asks
  | synthesizeAnnot => cases asks

/-- Any other request but the one that empties the tables goes on beside the ledger. -/
theorem serve_aside (asks : request.lookup? engine.settings = none)
    (other : request.clears = false) : Aside (engine.serve request) := by
  have search {σ : Type} (start : σ) (kind : SearchKind) (type : String)
      (proc : Processor σ Unit) (element : Element) :
      Aside (searchApart start (engine.search.searchFrom kind type proc element 0)) :=
    searchApart_aside (engine.search.searchFrom_silent _ _ _ _ _)
  cases request with
  | call call =>
    refine Aside.closed.map _ ?_
    cases call with
    | isAnnotated | hasAnnot | hasMetaAnnotTypes =>
      exact Aside.closed.map _
        (Aside.closed.bind (search () _ _ _ _) fun found => Aside.closed.pure found.1.isSome)
    | allAttributes =>
      refine Aside.closed.map _ (Aside.closed.bind ?_ fun found => Aside.closed.pure found.2)
      exact searchingWith_aside (engine.search.searchFrom_silent _ _ _ _ _)
    | annotAttributes => exact Aside.closed.map _ (withMemo_aside _)
    | metaAnnotTypes element type =>
      exact Aside.closed.map _ (engine.getMetaAnnotTypes_aside element type)
    | isSynthesizable => exact Aside.closed.map _ (withMemo_aside _)
    | clearCaches => cases other
    | _ => cases asks
  | mergedAs => cases asks
  | synthesize => exact Aside.closed.map _ (Aside.closed.lift _)
  | synthesizeAnnot annot element =>
    exact Aside.closed.map _ (engine.synthesizeAnnot_aside annot element)

theorem serve_clears (clears : request.clears = true) (s : EngineState) :
    (engine.serve request s).2.ledger = { s.ledger with merged := [], found := [] } := by
  cases request with
  | call call =>
    cases call with
    | clearCaches => rfl
    | _ => cases clears
  | _ => cases clears

/-- Every request keeps the books, its turn put on top of the earlier ones. -/
theorem serve_books (keeps : engine.settings.cacheEnabled = true) {past : List Turn}
    {s : EngineState} (h : Books past s.ledger) (request : Request) :
    Books (engine.turn request s :: past) (engine.serve request s).2.ledger := by
  unfold turn
  cases asks : request.lookup? engine.settings with
  | some what =>
    rw [serve_ledger asks]
    exact look_books keeps h what
  | none =>
    cases clears : request.clears with
    | true =>
      rw [serve_clears clears]
      exact h.cleared
    | false =>
      rw [serve_aside asks clears]
      exact h.other

theorem turns_books (keeps : engine.settings.cacheEnabled = true) (requests : List Request) :
    Books (engine.turns requests) (engine.after requests).ledger := by
  induction requests with
  | nil => exact .fresh
  | cons request earlier ih => exact serve_books keeps ih request

/-- Without kept results no request touches the ledger. -/
theorem after_unused (keeps : engine.settings.cacheEnabled = false) (requests : List Request) :
    (engine.after requests).ledger = {} := by
  have remembered {κ ν : Type} [DecidableEq κ] (part : Caches.Part κ ν) (key : κ)
      (find : Action EngineState ν) : engine.remember part key find = find := by
    unfold remember
    simp [keeps]
  have looks (what : Lookup) : Aside (engine.look what) := by
    cases what with
    | merged key =>
      refine Aside.closed.map _ ?_
      rw [merged, remembered]
      exact engine.mergeAnew_aside key
    | found element type =>
      refine Aside.closed.map _ ?_
      rw [findRaw, remembered]
      exact engine.findAnew_aside element type
  induction requests with
  | nil => rfl
  | cons request earlier ih =>
    unfold after
    cases asks : request.lookup? engine.settings with
    | some what => rw [serve_ledger asks, looks what, ih]
    | none =>
      cases clears : request.clears with
      | true => rw [serve_clears clears, ih]
      | false => rw [serve_aside asks clears, ih]

end Engine

theorem Metrics.shown_results (state : EngineState) {cache : CacheName}
    (ofResults : cache = .merged ∨ cache = .found) (hit : Bool) :
    Metrics.shown (.lookup cache hit) state.events =
      state.ledger.events.count (.lookup cache hit) := by
  rw [Metrics.shown_eq_count]
  refine (List.count_filter ?_).symm
  rcases ofResults with rfl | rfl <;> rfl

theorem Table.length_eq_ncard {κ ν : Type} [DecidableEq κ] {table : Table κ ν}
    (distinct : table.keys.Nodup) {held : κ → Bool}
    (h : ∀ key, (table.find? key).isSome = held key) :
    table.length = {key | held key = true}.ncard := by
  have same : {key | held key = true} = (table.keys.toFinset : Set κ) := by
    ext key
    simp [Table.mem_keys, h]
  rw [same, Set.ncard_coe_finset, List.toFinset_card_of_nodup distinct]
  simp [keys]

theorem Turn.Books.accounted {past : List Turn} {state : EngineState}
    (h : Books past state.ledger) : Accounted past state where
  lookups := by
    rw [← Turn.count_add_count]
    exact congrArg₂ (· + ·) h.hits h.misses
  hits := h.hits
  misses := h.misses
  mergedEntries := Table.length_eq_ncard h.mergedKeys h.merged
  foundEntries := Table.length_eq_ncard h.foundKeys h.found
  shownHits := by
    rw [Metrics.shown_results state (.inl rfl), Metrics.shown_results state (.inr rfl), h.shown]
    exact h.hits.symm
  shownMisses := by
    rw [Metrics.shown_results state (.inl rfl), Metrics.shown_results state (.inr rfl), h.shown]
    exact h.misses.symm

/-- Where nothing is kept, nothing is counted. -/
structure EngineState.Uncounted (state : EngineState) : Prop where
  hits : state.caches.stats.hits = 0
  misses : state.caches.stats.misses = 0
  mergedEntries : state.caches.stats.mergedEntries = 0
  foundEntries : state.caches.stats.foundEntries = 0
  shown : ∀ hit, Metrics.shown (.lookup .merged hit) state.events = 0 ∧
    Metrics.shown (.lookup .found hit) state.events = 0

/-- After any requests, of an engine that keeps results and of one that keeps none. -/
theorem Engine.requests_accounted (engine : Engine) (requests : List Request) :
    Accounted ((engine.caching true).turns requests) ((engine.caching true).after requests) ∧
      ((engine.caching false).after requests).Uncounted := by
  refine ⟨(turns_books rfl requests).accounted, ?_⟩
  have unused : ((engine.caching false).after requests).ledger = {} := after_unused rfl requests
  generalize (engine.caching false).after requests = state at unused
  have shown (cache : CacheName) (ofResults : cache = .merged ∨ cache = .found) (hit : Bool) :
      Metrics.shown (.lookup cache hit) state.events = 0 := by
    rw [Metrics.shown_results state ofResults, unused]
    rfl
  exact ⟨congrArg Ledger.hits unused, congrArg Ledger.misses unused,
    congrArg (·.merged.length) unused, congrArg (·.found.length) unused,
    fun hit => ⟨shown .merged (.inl rfl) hit, shown .found (.inr rfl) hit⟩⟩

end Annotations
