import Annotations.Typed

/-!
Schemas of sample records: one of every field kind, aliases between the fields of one record,
overrides of a meta-annotation's fields, and nested records.
-/
namespace Annotations
namespace Records

/-- A text field that is empty by default. -/
def textField (name : String) (aliasFor : Option AliasFor := none) : Field :=
  ⟨name, .text, some (.text ""), aliasFor⟩

def header : Schema :=
  ⟨"typed.Header", false, [], [⟨"name", .text, none, none⟩, textField "value"]⟩

/-- A list of headers, empty by default. -/
def headersField (aliasFor : Option AliasFor := none) : Field :=
  ⟨"headers", .list (.record header), some (.list []), aliasFor⟩

def mapping : Schema :=
  ⟨"typed.Mapping", false, [], [
    textField "name",
    textField "value" (some ⟨none, some "path"⟩),
    textField "path" (some ⟨none, some "value"⟩),
    headersField]⟩

def get : Schema :=
  ⟨"typed.Get", false, ["typed.Mapping"], [
    textField "path" (some ⟨some "typed.Mapping", none⟩),
    headersField (some ⟨some "typed.Mapping", none⟩)]⟩

def tx : Schema :=
  ⟨"typed.Tx", true, [], [
    ⟨"timeout", .long, some (.long (-1)), none⟩,
    ⟨"read_only", .boolean, some (.boolean false), none⟩]⟩

def cached : Schema :=
  ⟨"shop.Cached", true, [], [
    ⟨"region", .text, some (.text "default"), none⟩,
    ⟨"ttl", .long, some (.long 60), none⟩]⟩

def productCache : Schema :=
  ⟨"shop.ProductCache", false, ["shop.Cached"], [
    ⟨"region", .text, some (.text "products"), some ⟨some "shop.Cached", some "region"⟩⟩]⟩

def option : Schema :=
  ⟨"typed.Option", false, [], [
    ⟨"value", .text, some (.text "none"), none⟩,
    ⟨"weights", .list .double, some (.list []), none⟩]⟩

def all : Schema :=
  ⟨"typed.All", true, ["typed.Tx", "shop.Cached"], [
    ⟨"text", .text, none, none⟩,
    ⟨"flag", .boolean, some (.boolean true), none⟩,
    ⟨"long", .long, some (.long 7), none⟩,
    ⟨"int", .int, some (.int 3), none⟩,
    ⟨"ratio", .double, some (.double 0x3ff8000000000000), none⟩,
    ⟨"class", .classRef, some (.classRef "app.Default"), none⟩,
    ⟨"names", .list .text, some (.list [.text "a", .text "b"]), none⟩,
    ⟨"ints", .list .int, some (.list [.int 1, .int 2]), none⟩,
    ⟨"grid", .list (.list .long), some (.list []), none⟩,
    ⟨"type", .record option, none, none⟩,
    headersField]⟩

def marker : Schema := ⟨"typed.Marker", false, [], []⟩

/-- All sample schemas in their order of registration. -/
def schemas : List Schema :=
  [header, mapping, get, tx, cached, productCache, all, option, marker]

/-- The schema of a name. -/
def schema? (name : String) : Option Schema := schemas.find? (·.name == name)

/-- The annotation types that the schemas register. -/
def types : List (String × AnnotType) :=
  schemas.filterMap fun schema => schema.annotType?.map (schema.name, ·)

end Records
end Annotations
