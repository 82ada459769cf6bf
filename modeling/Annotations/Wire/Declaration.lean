import Annotations.Registry
import Annotations.SchemaDecl
import Annotations.Wire.Value

/-!
Declarations as documents: annotation types, classes, and the options written on schemas.
-/
namespace Annotations.Wire
open Document (option texts)

/-! ## Reading -/

def readAliasFor (document : Document) : Decode AliasFor := do
  return { type := ← text? document "annotation", attr := ← text? document "attribute" }

def readAttr (document : Document) : Decode Attr := do
  return {
    name := ← text document "name"
    type := ← readType (← field document "type")
    default? := ← (field? document "default").mapM readValue
    aliasFor := ← (field? document "alias").mapM readAliasFor }

/-- An annotation type with its name; the inherited marker goes in front of the meta-annotations. -/
def readAnnotType (document : Document) : Decode (String × AnnotType) := do
  let marker : List Annot := if ← flag document "inherited" then [{ type := Marker.inherited }] else []
  let metas ← listOf readAnnot document "meta"
  return (← text document "name", {
    attrs := ← listOf readAttr document "attributes"
    metas := marker ++ metas })

def readMethodDecl (document : Document) : Decode MethodDecl := do
  return {
    name := ← text document "name"
    parameters := ← listOf asText document "params"
    annots := ← listOf readAnnot document "annotations"
    bridge := ← (field? document "bridge").mapM fun bridge => do (← asList bridge).mapM asText }

/-- A class or interface with its name. -/
def readClassDecl (document : Document) : Decode (String × ClassDecl) := do
  return (← text document "name", {
    kind := if (← text document "kind") == "interface" then .interface else .ordinary
    superclass := ← text? document "extends"
    interfaces := ← listOf asText document "implements"
    annots := ← listOf readAnnot document "annotations"
    methods := ← listOf readMethodDecl document "methods" })

def readOption (document : Document) : Decode OptionItem := do
  if let some name ← text? document "path" then return .path name
  if let some name ← text? document "list" then return .call name
  let (name, given) ← asPair (← field document "nv")
  match ← text? given "str" with
  | some content => return .setting (← asText name) (.text content)
  | none => return .setting (← asText name) (.expression (← text given "raw"))

def readOptions (document : Document) : Decode (List OptionItem) := do
  (← asList document).mapM readOption

def readShape : String → Decode Shape
  | "struct" => .ok .struct
  | "tuple" => .ok .tuple
  | "unit" => .ok .unit
  | "enum" => .ok .enum
  | "union" => .ok .union
  | other => .error ("no shape " ++ other)

def readFieldDecl (document : Document) : Decode FieldDecl := do
  return {
    ident := (← text? document "ident").getD ""
    type := (← text? document "type").getD ""
    options := ← listOf readOptions document "attribute" }

def readSchemaDecl (document : Document) : Decode SchemaDecl := do
  return {
    ident := ← text document "ident"
    generics := (← text? document "generics").getD ""
    shape := ← readShape (← text document "shape")
    options := ← listOf readOptions document "annotation"
    fields := ← listOf readFieldDecl document "fields" }

/-! ## Writing -/

def ofAliasFor (decl : AliasFor) : Document :=
  .table [("annotation", option .text decl.type), ("attribute", option .text decl.attr)]

def ofAttr (attr : Attr) : Document :=
  .table [("name", .text attr.name), ("type", ofType attr.type),
    ("default", option ofValue attr.default?), ("alias", option ofAliasFor attr.aliasFor)]

def ofAnnotType (name : String) (type : AnnotType) : Document :=
  .table [("name", .text name), ("inherited", .boolean type.isInherited),
    ("meta", ofAnnots type.metas), ("attributes", .list (type.attrs.map ofAttr))]

def ofMethodDecl (decl : MethodDecl) : Document :=
  .table [("name", .text decl.name), ("params", texts decl.parameters),
    ("annotations", ofAnnots decl.annots), ("bridge", option texts decl.bridge)]

def ofClassKind : ClassKind → Document
  | .ordinary => .text "class"
  | .interface => .text "interface"

def ofClassDecl (name : String) (decl : ClassDecl) : Document :=
  .table [("name", .text name), ("kind", ofClassKind decl.kind),
    ("extends", option .text decl.superclass), ("implements", texts decl.interfaces),
    ("annotations", ofAnnots decl.annots), ("methods", .list (decl.methods.map ofMethodDecl))]

def ofFieldOutline (field : FieldOutline) : Document :=
  .table [("ident", .text field.ident), ("attribute", .text field.attrName),
    ("name", option .text field.name), ("alias_for", option .text field.aliasFor),
    ("annotation", option .text field.annot), ("has_default", .boolean field.hasDefault)]

def ofSchemaOutline (schema : SchemaOutline) : Document :=
  .table [("ident", .text schema.ident), ("name", .text schema.name),
    ("inherited", .boolean schema.inherited), ("meta", texts schema.metas),
    ("fields", .list (schema.fields.map ofFieldOutline))]

end Annotations.Wire
