import Annotations.SchemaDecl.Definition

/-!
The outline of a schema that a schema declaration amounts to.
-/
namespace Annotations

/-- What the options of a field say. -/
structure FieldOutline where
  ident : String
  name : Option String := none
  aliasFor : Option String := none
  annot : Option String := none
  hasDefault : Bool := false
deriving DecidableEq, Repr

structure SchemaOutline where
  ident : String
  name : String
  inherited : Bool
  metas : List String
  fields : List FieldOutline
deriving DecidableEq, Repr

namespace SchemaDecl

/-! ## Options -/

/-- A name that is no path. -/
def nameOf (path : Path) : Except Fault String :=
  match path.name? with
  | some name => .ok name
  | none => .error .notIdentifier

/-- The text that a setting is given. -/
def textOf : Option String → Except Fault String
  | some content => .ok content
  | none => .error .notText

/-- Adds an option to the outline of a field. -/
def addFieldOption (outline : FieldOutline) : Clause → Except Fault FieldOutline
  | .setting path content => do
    match ← nameOf path with
    | "name" => return { outline with name := some (← textOf content) }
    | "alias_for" => return { outline with aliasFor := some (← textOf content) }
    | "annotation" => return { outline with annot := some (← textOf content) }
    | "default" => return { outline with hasDefault := true }
    | other => throw (.unknownFieldOption other)
  | _ => throw .notSetting

/-- The name of the schema, as far as one is given, with its markers and metas. -/
structure Header where
  name : Option String := none
  inherited : Bool := false
  metas : List String := []
deriving DecidableEq, Repr

/-- Adds an option to the header of a schema. -/
def addOption (header : Header) : Clause → Except Fault Header
  | .path path =>
    if path.name? = some "inherited" then .ok { header with inherited := true } else .error .notOption
  | .setting path content => do
    let name ← nameOf path
    let content ← textOf content
    match name with
    | "name" => return { header with name := some content }
    | "meta" => return { header with metas := header.metas ++ [content] }
    | other => throw (.unknownOption other)
  | .call .. => throw .notOption

/-- Adds the options in one tag after another. A tag is understood as a whole before any of its options
counts. -/
def addTags {α : Type} (add : α → Clause → Except Fault α) (start : α) (tags : List Clause) :
    Except Fault α :=
  tags.foldlM (fun state tag => do (← clausesOf tag).foldlM add state) start

def fieldOutline (field : List Clause × String) : Except Fault FieldOutline :=
  addTags addFieldOption { ident := field.2 } (tagsNamed fieldTag field.1)

/-- The fields of a struct, with their tags. -/
def fieldsOf : Body → Except Fault (List (List Clause × String))
  | .struct (.named fields) => .ok fields
  | .struct .absent => .ok []
  | .struct .unnamed => .error .unnamedFields
  | .other => .error .notStruct

/-- The outline of a schema. Faults of the grammar come first, those inside of tags aside; then type
parameters, the kind of body, fields and options. -/
def outline (decl : SchemaDecl) : Except Fault SchemaOutline := do
  let definition ← match tokens? decl with
    | some tokens => Definition.ofTokens tokens
    | none => throw .unreadable
  if definition.isGeneric then throw .generic
  let fields ← (← fieldsOf definition.body).mapM fieldOutline
  let header ← addTags addOption {} (tagsNamed schemaTag definition.tags)
  match header.name with
  | some name =>
    return {
      ident := definition.ident, name, inherited := header.inherited, metas := header.metas, fields }
  | none => throw .nameMissing

end SchemaDecl

/-- The name of the field's attribute: the one given, or the field's own without its raw mark. -/
def FieldOutline.attrName (field : FieldOutline) : String :=
  field.name.getD (String.ofList (unmarked field.ident.toList))
where
  unmarked : List Char → List Char
    | 'r' :: '#' :: rest => unmarked rest
    | chars => chars

end Annotations
