import Annotations.Engine

/-!
A small web vocabulary with classes that use it. Between them its types have every shape of alias:
pairs, overrides, implicit and transitive implicit aliases, next to inherited types and nested
annotations.
-/
namespace Annotations
namespace Vocabulary

/-- A text attribute that is empty by default. -/
def textAttr (name : String) (aliasFor : Option AliasFor := none) : Attr :=
  { name, type := .text, default? := some (.text ""), aliasFor }

/-- An array attribute that is empty by default. -/
def arrayAttr (name : String) (element : AttrType) (aliasFor : Option AliasFor := none) : Attr :=
  { name, type := .array element, default? := some (.array []), aliasFor }

/-- An alias inside the declaring type. -/
def pairedWith (attr : String) : Option AliasFor := some ⟨none, some attr⟩

/-- An override of the attribute of the same name. -/
def overriding (type : String) : Option AliasFor := some ⟨some type, none⟩

/-- An override of an attribute of another name. -/
def overridingAttr (type attr : String) : Option AliasFor := some ⟨some type, some attr⟩

/-- A constant of the enumeration of request methods. -/
def requestMethod (constant : String) : Value := .enum "web.RequestMethod" constant

def types : Entries AnnotType := [
  ("web.Header", { attrs := [{ name := "name", type := .text }, textAttr "value"] }),
  ("web.Mapping", {
    attrs := [
      textAttr "name",
      textAttr "value" (pairedWith "path"),
      textAttr "path" (pairedWith "value"),
      arrayAttr "method" (.enum "web.RequestMethod"),
      arrayAttr "headers" (.annot "web.Header")] }),
  ("web.GetMapping", {
    metas := [⟨"web.Mapping", [("method", .array [requestMethod "GET"])]⟩]
    attrs := [
      textAttr "value" (overriding "web.Mapping"),
      textAttr "path" (overriding "web.Mapping"),
      textAttr "name" (overriding "web.Mapping"),
      arrayAttr "headers" (.annot "web.Header") (overriding "web.Mapping")] }),
  ("web.Composed", {
    metas := [⟨"web.Mapping", []⟩]
    attrs := [
      textAttr "value" (pairedWith "path"),
      textAttr "path" (pairedWith "value"),
      textAttr "name" (overriding "web.Mapping")] }),
  ("web.Secured", { attrs := [arrayAttr "roles" .text] }),
  ("web.Transactional", {
    metas := [⟨Marker.inherited, []⟩]
    attrs := [
      { name := "timeout", type := .long, default? := some (.long (-1)) },
      { name := "read_only", type := .boolean, default? := some (.boolean false) }] }),
  ("web.TxService", {
    metas := [⟨"web.Transactional", [("timeout", .long 5)]⟩]
    attrs := [{
      name := "read_only", type := .boolean, default? := some (.boolean false)
      aliasFor := overriding "web.Transactional" }] }),
  ("test.Config", { attrs := [textAttr "locations"] }),
  ("test.ImplicitAliases", {
    metas := [⟨"test.Config", []⟩]
    attrs := [
      textAttr "xml_file" (overridingAttr "test.Config" "locations"),
      textAttr "groovy_script" (overridingAttr "test.Config" "locations"),
      textAttr "value" (overridingAttr "test.Config" "locations")] }),
  ("test.TransitiveImplicitAliases", {
    metas := [⟨"test.ImplicitAliases", []⟩]
    attrs := [
      textAttr "xml" (overridingAttr "test.ImplicitAliases" "xml_file"),
      textAttr "groovy" (overridingAttr "test.ImplicitAliases" "groovy_script")] }),
  ("test.Base", { attrs := [textAttr "name"] }),
  ("test.A", { metas := [⟨"test.Base", []⟩], attrs := [textAttr "name" (overriding "test.Base")] }),
  ("test.B", { metas := [⟨"test.Base", []⟩], attrs := [textAttr "name" (overriding "test.Base")] })]

def classes : Entries ClassDecl := [
  ("app.Controller", { annots := [⟨"web.Composed", [("value", .text "/api")]⟩] }),
  ("app.SecuredController", { annots := [⟨"web.Secured", [("roles", .text "x")]⟩] }),
  ("app.Service", {
    kind := .interface
    methods := [
      { name := "first", annots := [⟨"test.A", [("name", .text "A")]⟩] },
      { name := "second", annots := [⟨"test.B", [("name", .text "B")]⟩] }] }),
  ("app.ServiceImpl", {
    interfaces := ["app.Service"]
    methods := [{ name := "first" }, { name := "second" }] }),
  ("app.BaseRepository", { annots := [⟨"web.Transactional", [("timeout", .long 10)]⟩] }),
  ("app.UserRepository", {
    superclass := some "app.BaseRepository"
    annots := [⟨"web.TxService", []⟩] }),
  ("app.PlainRepository", { superclass := some "app.BaseRepository" }),
  ("app.UserController", {
    annots := [⟨"web.GetMapping", [
      ("path", .text "/users"),
      ("headers", .array [.annot "web.Header" [("name", .text "Accept")]])]⟩] })]

end Vocabulary

namespace Registry

/-- Registers types one after another. -/
def addTypes (reg : Registry) (types : List (String × AnnotType)) : Registry :=
  types.foldl (fun reg entry => reg.addType entry.1 entry.2) reg

/-- Registers classes one after another. -/
def addClasses (reg : Registry) (classes : List (String × ClassDecl)) : Registry :=
  classes.foldl (fun reg entry => reg.addClass entry.1 entry.2) reg

/-- The registry of the web vocabulary and the classes that use it. -/
def web : Registry := (base.addTypes Vocabulary.types).addClasses Vocabulary.classes

end Registry

/-- An engine over the web vocabulary. -/
def Engine.web : Engine where
  reg := .web

end Annotations
