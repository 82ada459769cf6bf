import Annotations.Cache
import Annotations.Merge

/-!
The engine: merged and raw annotations of elements, their presence, and typed reads, with results
kept between calls.
-/
namespace Annotations

structure Engine where
  reg : Registry
  settings : Settings := {}

/-- What an engine knows from earlier calls, and the events so far, latest first. -/
structure EngineState where
  memo : SynthMemo := {}
  caches : Caches := {}
  events : List Event := []
deriving Inhabited

namespace EngineState

def lookedUp (state : EngineState) (cache : CacheName) (hit : Bool) : EngineState :=
  { state with caches := state.caches.count hit, events := .lookup cache hit :: state.events }

end EngineState

/-- The first annotation of a type, as it stands. -/
def firstMatch (target : String) : Processor Unit Annot where
  process _ annot _ := return if annot.type == target then some annot else none

/-- Ends the search at an annotation of a type. -/
def presence (target : String) : Processor Unit Unit where
  process _ annot _ := return if annot.type == target then some () else none

/-- Ends the search at a meta-annotation of a type. -/
def metaPresence (target : String) : Processor Unit Unit where
  process _ annot depth := return if depth > 0 && annot.type == target then some () else none

/-- Collects the types of all candidates and never ends the search. -/
def collectTypes : Processor (List String) Unit where
  process _ annot _ := do
    modify fun types => if types.contains annot.type then types else types ++ [annot.type]
    return none

/-- Collects the attributes of all annotations of a type and never ends the search. -/
def collectAll (reg : Registry) (target : String) (rendering : Rendering) :
    Processor (SynthMemo × Option MultiStore) Unit where
  process element annot _ := fun (memo, found) =>
    if annot.type == target then
      match reg.annotAttributes element rendering annot memo with
      | (.ok store, memo) => (.ok none, memo, some ((found.getD {}).addAll store))
      | (.error error, memo) => (.error error, memo, found)
    else (.ok none, memo, found)

namespace Engine

def search (engine : Engine) : Search := { reg := engine.reg, settings := engine.settings }

/-- Runs a search from the engine's state and leaves what it learned there. -/
def searching {σ α : Type} (enter : EngineState → σ) (leave : σ → EngineState → EngineState)
    (action : Action (Walk σ) α) : Action EngineState α := fun state =>
  let (outcome, walk) :=
    action { interfaces := state.caches.interfaces, events := state.events, state := enter state }
  (outcome, leave walk.state
    { state with caches := { state.caches with interfaces := walk.interfaces }, events := walk.events })

/-- Runs a search whose processor keeps something of its own beside the engine's memo, and gives it. -/
def searchingWith {σ α : Type} (start : σ) (action : Action (Walk (SynthMemo × σ)) α) :
    Action EngineState (α × σ) := fun state =>
  let (outcome, walk) := action
    { interfaces := state.caches.interfaces, events := state.events, state := (state.memo, start) }
  (outcome.map (·, walk.state.2),
    { state with
      memo := walk.state.1
      caches := { state.caches with interfaces := walk.interfaces }
      events := walk.events })

/-- Runs a search whose processor knows nothing of the engine, and gives its last state. -/
def searchApart {σ α : Type} (start : σ) (action : Action (Walk σ) α) : Action EngineState (α × σ) :=
  fun state =>
    let (outcome, walk) :=
      action { interfaces := state.caches.interfaces, events := state.events, state := start }
    (outcome.map (·, walk.state),
      { state with caches := { state.caches with interfaces := walk.interfaces }, events := walk.events })

/-- Runs a computation over the answers found about aliases. -/
def withMemo {α : Type} (action : Action SynthMemo α) : Action EngineState α := fun state =>
  let (outcome, memo) := action state.memo
  (outcome, { state with memo })

/-- A merge from scratch. -/
def mergeAnew (engine : Engine) (key : MergeKey) : Action EngineState (Option Store) := do
  let merge : Merge := { reg := engine.reg, target := key.type, rendering := key.rendering }
  let found ← searching (·.memo) (fun memo state => { state with memo })
    (engine.search.searchFrom key.kind key.type merge.processor key.element 0)
  match found with
  | none => return none
  | some pending => some <$> withMemo (engine.reg.finish key.element key.rendering pending)

/-- A result from its table where results are kept and it is there. A failure is not kept. -/
def remember {κ ν : Type} [DecidableEq κ] (engine : Engine) (part : Caches.Part κ ν) (key : κ)
    (find : Action EngineState ν) : Action EngineState ν := do
  if engine.settings.cacheEnabled then
    match (part.read (← get).caches).find? key with
    | some known =>
      modify (·.lookedUp part.name true)
      return known
    | none =>
      modify (·.lookedUp part.name false)
      let result ← find
      modify fun state =>
        { state with caches := part.write state.caches ((part.read state.caches).set key result) }
      return result
  else
    find

def merged (engine : Engine) (key : MergeKey) : Action EngineState (Option Store) :=
  engine.remember .merged key (engine.mergeAnew key)

def getMergedWith (engine : Engine) (element : Element) (type : String) (rendering : Rendering) :
    Action EngineState (Option Store) :=
  engine.merged ⟨.get, element, type, rendering⟩

def findMergedWith (engine : Engine) (element : Element) (type : String) (rendering : Rendering) :
    Action EngineState (Option Store) :=
  engine.merged ⟨.find, element, type, rendering⟩

def getMerged (engine : Engine) (element : Element) (type : String) : Action EngineState (Option Store) :=
  engine.getMergedWith element type engine.settings.rendering

def findMerged (engine : Engine) (element : Element) (type : String) : Action EngineState (Option Store) :=
  engine.findMergedWith element type engine.settings.rendering

/-- A view of a store as an annotation of a type, worked out anew. -/
def synthesize (engine : Engine) (store : Store) (type : String) (element : Option Element) :
    Except Error View :=
  (engine.reg.viewStore store type element {}).1

/-- A view of an annotation, if there is one. -/
def synthesizeAnnot (engine : Engine) (annot : Option Annot) (element : Option Element) :
    Action EngineState (Option View) :=
  match annot with
  | none => return none
  | some annot => some <$> withMemo (engine.reg.viewAnnot annot element)

/-- A view of the raw merge, of either kind. -/
def mergedView (engine : Engine) (kind : SearchKind) (element : Element) (type : String) :
    Action EngineState (Option View) := do
  match ← engine.merged ⟨kind, element, type, .raw⟩ with
  | none => return none
  | some store => some <$> withMemo (engine.reg.viewStore store type (some element))

/-- The raw merge read into a schema's record. -/
def mergedAs (engine : Engine) (kind : SearchKind) (element : Element) (schema : Schema) :
    Action EngineState (Option Typed) := do
  match ← engine.mergedView kind element schema.name with
  | none => return none
  | some view =>
    let store ← withMemo (view.toStore engine.reg)
    return some (← schema.ofStore store)

/-- The attributes of every annotation of a type that a get search meets. -/
def getAllAttributes (engine : Engine) (element : Element) (type : String) :
    Action EngineState (Option MultiStore) := do
  let proc := collectAll engine.reg type engine.settings.rendering
  let (_, found) ← searchingWith none (engine.search.searchFrom .get type proc element 0)
  return found

def annotAttributes (engine : Engine) (element : Element) (annot : Annot) (rendering : Rendering) :
    Action EngineState Store :=
  withMemo (engine.reg.annotAttributes element rendering annot)

/-- Whether an annotation of a type is present, directly or as a meta-annotation. -/
def isAnnotated (engine : Engine) (element : Element) (type : String) : Action EngineState Bool := do
  let (found, _) ← searchApart () (engine.search.searchFrom .get type (presence type) element 0)
  return found.isSome

/-- Whether an annotation of a type can be found from the element on. -/
def hasAnnot (engine : Engine) (element : Element) (type : String) : Action EngineState Bool := do
  let (found, _) ← searchApart () (engine.search.searchFrom .find type (presence type) element 0)
  return found.isSome

def hasMetaAnnotTypes (engine : Engine) (element : Element) (type : String) :
    Action EngineState Bool := do
  let (found, _) ← searchApart () (engine.search.searchFrom .get type (metaPresence type) element 0)
  return found.isSome

/-- The annotation of a type on an element or, for a class, inherited by it. -/
def presentAnnot (engine : Engine) (element : Element) (type : String) : Except Error (Option Annot) := do
  let declared ← engine.reg.declaredAnnots element
  match declared.find? (·.type == type), element with
  | some annot, _ => return some annot
  | none, .classLike name => return (← engine.reg.inheritedAnnots name).find? (·.type == type)
  | none, _ => return none

/-- The types of all meta-annotations of a present annotation. -/
def getMetaAnnotTypes (engine : Engine) (element : Element) (type : String) :
    Action EngineState (List String) := do
  match engine.presentAnnot element type with
  | .error error => if error.isConfiguration then throw error else return []
  | .ok none => return []
  | .ok (some annot) =>
    let (_, types) ← searchApart []
      (engine.search.searchFrom .get type collectTypes (.annotType annot.type) 1)
    return types

/-- The first annotation of a type that a find search meets. -/
def findAnew (engine : Engine) (element : Element) (type : String) : Action EngineState (Option Annot) := do
  let (found, _) ← searchApart () (engine.search.searchFrom .find type (firstMatch type) element 0)
  return found

def findRaw (engine : Engine) (element : Element) (type : String) : Action EngineState (Option Annot) :=
  engine.remember .found (element, type) (engine.findAnew element type)

/-- A view of the first annotation of a type that a find search meets. -/
def findAnnot (engine : Engine) (element : Element) (type : String) : Action EngineState (Option View) := do
  engine.synthesizeAnnot (← engine.findRaw element type) (some element)

def isSynthesizable (engine : Engine) (type : String) : Action EngineState Bool :=
  withMemo (engine.reg.isSynthesizable type)

def clearCaches : Action EngineState Unit :=
  modify fun state => { state with caches := state.caches.clear }

end Engine
end Annotations
