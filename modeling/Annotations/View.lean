import Annotations.Store
import Annotations.Synthesizable
import Annotations.Typed
import Annotations.Value.Digest

/-!
Alias-aware views of an annotation or a store. Reading an attribute prefers a value set for one of
its aliases over its own default, refuses two set values that differ, and fits the value to the
declared type; nested annotations and stores come out as annotations with every attribute.
-/
namespace Annotations

/-- What a view reads from. -/
inductive Source where
  | annot (annot : Annot)
  | store (store : Store)
deriving Inhabited

structure View where
  name : String
  type : AnnotType
  element : Option Element
  source : Source
  aliases : Entries (List String)
  /-- Whether the type needs alias handling at all. -/
  synthesized : Bool
deriving Inhabited

namespace Source

def same : Source → Source → Bool
  | .annot a, .annot b => a.same b
  | .store a, .store b => a.same b
  | _, _ => false

end Source

namespace Registry

/-- A view of an annotation. -/
def viewAnnot (reg : Registry) (annot : Annot) (element : Option Element) : Action SynthMemo View := do
  let type ← reg.type annot.type
  if ← reg.isSynthesizable annot.type then
    let aliases ← reg.recallAliasMap annot.type
    return { name := annot.type, type, element, source := .annot annot, aliases, synthesized := true }
  else
    return { name := annot.type, type, element, source := .annot annot, aliases := [], synthesized := false }

/-- A view of a store as an annotation of a type. -/
def viewStore (reg : Registry) (store : Store) (name : String) (element : Option Element) :
    Action SynthMemo View := do
  let type ← reg.type name
  let aliases ← reg.recallAliasMap name
  return { name, type, element, source := .store store, aliases, synthesized := true }

/-- How deeply the defaults of all attributes together can nest. -/
def defaultDepth (reg : Registry) : Nat :=
  reg.types.foldr (fun entry total =>
    entry.2.attrs.foldr (fun attr total => (attr.default?.map Value.depth).getD 0 + total) total) 0

/-- How deeply a value can nest once defaults have filled its annotations, if no default leads back
to itself. -/
def nestingBound (reg : Registry) (value : Value) : Nat := value.depth + reg.defaultDepth + 1

end Registry

namespace View

/-- The value an attribute has by itself: given explicitly or, for an annotation, by default. -/
def raw (view : View) (name : String) : Option Value :=
  match view.source with
  | .annot annot => (annot.value? name).or (view.type.default? name)
  | .store store => store.get? name

def elementText (view : View) : String := (view.element.map Element.display).getD "unknown element"

/-- A value that is there and differs from the default. -/
def isSet (value default? : Option Value) : Bool :=
  value.isSome && !Value.sameOption value default?

/-- Goes through the aliases of an attribute. A value not set yields to the value of an alias; the
attribute that declares the value found so far is kept for the message. -/
def settle (view : View) (default? : Option Value) :
    List String → Option Value → String → Except Error (Option Value)
  | [], value, _ => .ok value
  | partner :: rest, value, declaredBy =>
    let other := view.raw partner
    if isSet value default? && isSet other default? && !Value.sameOption value other then
      .error (.attributeConflict view.name view.elementText declaredBy partner
        ((value.map Value.display).getD "") ((other.map Value.display).getD ""))
    else if !isSet value default? && other.isSome then
      view.settle default? rest other partner
    else
      view.settle default? rest value declaredBy

/-- The value of an attribute before it is fitted to the declared type. -/
def pick (view : View) (attr : Attr) : Except Error Value := do
  let settled ← view.settle attr.default? ((view.aliases.get? attr.name).getD []) (view.raw attr.name)
    attr.name
  match settled.or attr.default? with
  | some value => return value
  | none => throw (.missingSynthesizedAttribute view.name attr.name view.elementText)

/-- A single value where an array is declared stands for the array of it alone. -/
def wrap : AttrType → Value → Value
  | .array _, .array items => .array items
  | .array _, value => .array [value]
  | _, value => value

/-- Fits a value to a declared type: a class may be given by name, a nested annotation or store of
the right type becomes the annotation that `nested` makes of it. -/
def fit (owner : String) (nested : Source → String → Action SynthMemo Annot) (name : String) :
    AttrType → Value → Action SynthMemo Value
  | .array element, .array items => return .array (← items.mapM (fit owner nested name element))
  | .classRef, .text content => return .classRef content
  | .annot type, .annot given values =>
    if given = type then return (← nested (.annot ⟨given, values⟩) type).toValue
    else throw (.attributeTypeMismatch name owner (AttrType.display (.annot type)) "Annotation")
  | .annot type, .store given displayName values =>
    if given.all (· == type) then return (← nested (.store ⟨given, displayName, values⟩) type).toValue
    else throw (.attributeTypeMismatch name owner (AttrType.display (.annot type)) "AnnotationAttributes")
  | declared, value =>
    if value.conformsTo declared then return value
    else throw (.attributeTypeMismatch name owner declared.display value.kind)

/-- Reads an attribute, given what becomes of nested annotations in its value. -/
def attrWith (view : View) (nested : Value → Source → String → Action SynthMemo Annot) (name : String) :
    Action SynthMemo Value := do
  match view.type.attr? name with
  | none => throw (.attributeNotFound name view.name)
  | some attr =>
    let value ← view.pick attr
    fit view.name (nested value) attr.name attr.type (wrap attr.type value)

/-- Reads every attribute in declaration order. -/
def valuesWith (view : View) (nested : Value → Source → String → Action SynthMemo Annot) :
    Action SynthMemo (Entries Value) := do
  let pairs ← view.type.attrs.mapM fun attr => do return (attr.name, ← view.attrWith nested attr.name)
  return Entries.ofPairs pairs

end View

namespace Registry

/-- The annotation with every attribute that a view of a source reads, for nesting up to a bound. -/
def materialize (reg : Registry) (element : Option Element) :
    Nat → Source → String → Action SynthMemo Annot
  | 0, _, _ => throw .endlessDefault
  | bound + 1, source, type => do
    let view ← match source with
      | .annot annot => reg.viewAnnot annot element
      | .store store => reg.viewStore store type element
    let values ← view.valuesWith fun _ => reg.materialize element bound
    return { type := view.name, values }

end Registry

namespace View

/-- The value of an attribute. -/
def attr (view : View) (reg : Registry) (name : String) : Action SynthMemo Value :=
  view.attrWith (fun value => reg.materialize view.element (reg.nestingBound value)) name

/-- The values of all attributes. -/
def values (view : View) (reg : Registry) : Action SynthMemo (Entries Value) :=
  view.valuesWith fun value => reg.materialize view.element (reg.nestingBound value)

def toAnnot (view : View) (reg : Registry) : Action SynthMemo Annot := do
  return { type := view.name, values := ← view.values reg }

def toStore (view : View) (reg : Registry) : Action SynthMemo Store := do
  return { type := some view.name, values := ← view.values reg }

/-- The value of an attribute read at a kind. -/
def get (view : View) (reg : Registry) (kind : Kind) (name : String) : Action SynthMemo Typed := do
  let value ← view.attr reg name
  match kind.read value with
  | some read => return read
  | none => throw (.attributeTypeMismatch name view.name kind.expected value.kind)

/-- A view of the annotation that an attribute holds. -/
def nested (view : View) (reg : Registry) (name : String) : Action SynthMemo View := do
  match ← view.attr reg name with
  | .annot type values => reg.viewAnnot ⟨type, values⟩ view.element
  | other => throw (.attributeTypeMismatch name view.name "Annotation" other.kind)

/-- The annotations in a typed list. -/
def annotsOf : Typed → List Annot
  | .list items => items.filterMap fun item =>
    match item with
    | .annot nested => some nested
    | _ => none
  | _ => []

/-- Views of the annotations in the array that an attribute holds. -/
def nestedArray (view : View) (reg : Registry) (name : String) : Action SynthMemo (List View) := do
  let read ← view.get reg (.list .annot) name
  (annotsOf read).mapM fun annot => reg.viewAnnot annot view.element

/-- Runs a reading of a view and keeps its failure as a value. -/
def attempt {α : Type} (action : Action SynthMemo α) : Action SynthMemo (Except Error α) :=
  fun memo =>
    let (outcome, memo) := action memo
    (.ok outcome, memo)

/-- Two views are equal if they are of one type and all their values are equal or, where some value
of either cannot be read, their sources. -/
def same (a b : View) (reg : Registry) : Action SynthMemo Bool := do
  if a.name != b.name then return false
  let left ← attempt (a.values reg)
  let right ← attempt (b.values reg)
  match left, right with
  | .ok xs, .ok ys => return Value.sameEntries xs ys
  | .error _, .error _ => return a.source.same b.source
  | _, _ => return false

/-- What a hash of a view is computed from: its type and, where all of them can be read, the values of
its attributes in declaration order. -/
def digest (view : View) (reg : Registry) : Action SynthMemo (List Atom) := do
  match ← attempt (view.values reg) with
  | .error _ => return [.text view.name]
  | .ok values => return .text view.name :: values.flatMap fun entry => .text entry.1 :: entry.2.digest

def displayAttrs (view : View) (reg : Registry) : List Attr → Action SynthMemo (List String)
  | [] => return []
  | attr :: rest => do
    let text := match ← attempt (view.attr reg attr.name) with
      | .ok value => value.display
      | .error _ => "<unresolved>"
    return (attr.name ++ "=" ++ text) :: (← view.displayAttrs reg rest)

/-- A view as text; an attribute that cannot be read is marked. -/
def display (view : View) (reg : Registry) : Action SynthMemo String := do
  let texts ← view.displayAttrs reg view.type.attrs
  return "@" ++ view.name ++ "(" ++ ", ".intercalate texts ++ ")"

end View
end Annotations
