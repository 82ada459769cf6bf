import Annotations.Search
import Annotations.View

/-!
Merging: the attributes of an annotation where a search finds it, overlaid by the annotations between
that point and the element the search began at. An attribute overrides the attribute its alias link
leads to, any other but `value` the attribute of its own name. Last, alias groups are completed and
values left at their default rendered.
-/
namespace Annotations

/-- An attribute value on its way into a store: given by an annotation, or the declared default. -/
inductive Slot where
  | given (value : Value)
  | default (value : Value)
deriving Inhabited, Repr

def Slot.given? : Slot → Option Value
  | .given value => some value
  | .default _ => none

/-- Attributes of a type before their last step. -/
structure Pending where
  type : String
  slots : Entries Slot
deriving Inhabited, Repr

namespace Pending

def putGiven (pending : Pending) (name : String) (value : Value) : Pending :=
  { pending with slots := pending.slots.put name (.given value) }

/-- The values that annotations gave. -/
def declared (pending : Pending) : Entries Value :=
  pending.slots.filterMap fun entry => entry.2.given?.map (entry.1, ·)

/-- Compares the values declared for an attribute and its aliases and hands the value of an alias to
an attribute that has none. Values handed on do not take part in the comparison. -/
def shareAmong (type elementText : String) (declared : Entries Value) (name : String) :
    List String → Entries Slot → Except Error (Entries Slot)
  | [], slots => .ok slots
  | partner :: rest, slots =>
    match declared.get? name, declared.get? partner with
    | some value, some other =>
      if value.same other then shareAmong type elementText declared name rest slots
      else .error (.attributeConflict type elementText name partner value.display other.display)
    | none, some other =>
      if ((slots.get? name).bind Slot.given?).isSome then
        shareAmong type elementText declared name rest slots
      else shareAmong type elementText declared name rest (slots.put name (.given other))
    | _, none => shareAmong type elementText declared name rest slots

/-- Completes every alias group, in the order of an alias map. -/
def shareAll (type elementText : String) (declared : Entries Value) :
    Entries (List String) → Entries Slot → Except Error (Entries Slot)
  | [], slots => .ok slots
  | (name, aliases) :: rest, slots => do
    shareAll type elementText declared rest (← shareAmong type elementText declared name aliases slots)

end Pending

namespace Registry

/-- The slots of an annotation's attributes: what it gives, rendered, or the default as it stands. -/
def slotsOf (render : Value → Action SynthMemo Value) (annot : Annot) :
    List Attr → Entries Slot → Action SynthMemo (Entries Slot)
  | [], slots => return slots
  | attr :: rest, slots => do
    match (annot.value? attr.name).or attr.default? with
    | none => throw (.missingAttributeValue annot.type attr.name)
    | some value =>
      let slot ← if Value.sameOption attr.default? (some value) then pure (Slot.default value)
        else Slot.given <$> render value
      slotsOf render annot rest (slots.put attr.name slot)

def retrieveWith (reg : Registry) (render : Value → Action SynthMemo Value) (annot : Annot) :
    Action SynthMemo Pending := do
  let type ← reg.type annot.type
  return { type := annot.type, slots := ← slotsOf render annot type.attrs [] }

/-- Renders the defaults that are left and collects the values. -/
def storeSlots (render : Value → Action SynthMemo Value) :
    Entries Slot → Store → Action SynthMemo Store
  | [], store => return store
  | (name, slot) :: rest, store => do
    let value ← match slot with
      | .given value => pure value
      | .default value => render value
    storeSlots render rest (store.put name value)

/-- The store of pending attributes. -/
def finishWith (reg : Registry) (render : Value → Action SynthMemo Value) (element : Element)
    (pending : Pending) : Action SynthMemo Store := do
  let aliases ← reg.recallAliasMap pending.type
  let slots ← Pending.shareAll pending.type element.display pending.declared aliases pending.slots
  storeSlots render slots (Store.ofType pending.type)

end Registry

namespace Rendering

mutual

/-- Renders a value, given what becomes of nested annotations. Stores stay as they are. -/
def renderWith (rendering : Rendering) (nested : Annot → Action SynthMemo Value) :
    Value → Action SynthMemo Value
  | .classRef name => return if rendering.classesAsText then .text name else .classRef name
  | .annot type values => nested ⟨type, values⟩
  | .array items => return .array (← renderItems rendering nested items)
  | value => return value

def renderItems (rendering : Rendering) (nested : Annot → Action SynthMemo Value) :
    List Value → Action SynthMemo (List Value)
  | [] => return []
  | item :: rest => do
    let head ← renderWith rendering nested item
    return head :: (← renderItems rendering nested rest)

end

/-- Renders a nested annotation, for nesting up to a bound. -/
def renderNested (rendering : Rendering) (reg : Registry) (element : Element) :
    Nat → Annot → Action SynthMemo Value
  | 0, _ => throw .endlessDefault
  | bound + 1, annot =>
    if rendering.nestedAsStores then do
      let render := rendering.renderWith (rendering.renderNested reg element bound)
      let store ← reg.finishWith render element (← reg.retrieveWith render annot)
      return store.toValue
    else do
      return (← reg.materialize (some element) (bound + 1) (.annot annot) annot.type).toValue

end Rendering

namespace Registry

/-- A value as a merged store holds it. -/
def render (reg : Registry) (element : Element) (rendering : Rendering) (value : Value) :
    Action SynthMemo Value :=
  rendering.renderWith (rendering.renderNested reg element (reg.nestingBound value)) value

/-- The attributes of an annotation before overrides. -/
def retrieve (reg : Registry) (element : Element) (rendering : Rendering) (annot : Annot) :
    Action SynthMemo Pending :=
  reg.retrieveWith (reg.render element rendering) annot

/-- The last step of a merge. -/
def finish (reg : Registry) (element : Element) (rendering : Rendering) (pending : Pending) :
    Action SynthMemo Store :=
  reg.finishWith (reg.render element rendering) element pending

/-- The store of a single annotation, with no overrides from outside. -/
def annotAttributes (reg : Registry) (element : Element) (rendering : Rendering) (annot : Annot) :
    Action SynthMemo Store := do
  reg.finish element rendering (← reg.retrieve element rendering annot)

end Registry

/-- A merge of annotations of one type. -/
structure Merge where
  reg : Registry
  target : String
  rendering : Rendering

namespace Merge

/-- The names in a group that were not written yet, and all that are written now. -/
def unwritten : List String → List String → List String × List String
  | [], written => ([], written)
  | name :: rest, written =>
    if written.contains name then unwritten rest written
    else
      let (fresh, written) := unwritten rest (name :: written)
      (name :: fresh, written)

/-- Gives the value that a view reads for an attribute to each of some target attributes. -/
def writeAll (merge : Merge) (element : Element) (view : View) (source : String) (targets : List String)
    (pending : Pending) : Action SynthMemo Pending := do
  let value ← merge.reg.render element merge.rendering (← view.attr merge.reg source)
  return targets.foldl (fun pending name => pending.putGiven name value) pending

/-- Lets the attributes of an annotation override the pending ones. The first attribute that
overrides a member of an alias group writes the whole group. -/
def overlay (merge : Merge) (element : Element) (view : View) (groups : Entries (List String)) :
    List Attr → List String → Pending → Action SynthMemo Pending
  | [], _, pending => return pending
  | attr :: rest, written, pending => do
    match ← merge.reg.recallOverrideName view.name attr.name pending.type with
    | some name =>
      if written.contains name then merge.overlay element view groups rest written pending
      else
        let (targets, written) := unwritten (name :: (groups.get? name).getD []) written
        let pending ← merge.writeAll element view attr.name targets pending
        merge.overlay element view groups rest written pending
    | none =>
      if attr.name != valueAttr && pending.slots.has attr.name then
        let pending ← merge.writeAll element view attr.name [attr.name] pending
        merge.overlay element view groups rest written pending
      else merge.overlay element view groups rest written pending

/-- Overlays a result by the annotation that led to it. -/
def override (merge : Merge) (element : Element) (annot : Annot) (pending : Pending) :
    Action SynthMemo Pending := do
  let view ← merge.reg.viewAnnot annot (some element)
  let groups ← merge.reg.recallAliasMap pending.type
  merge.overlay element view groups view.type.attrs [] pending

/-- Takes the first annotation of the type and overlays it on the way back. -/
def processor (merge : Merge) : Processor SynthMemo Pending where
  process element annot _ :=
    if annot.type == merge.target then
      some <$> merge.reg.retrieve element merge.rendering annot
    else return none
  postProcess := merge.override

end Merge
end Annotations
